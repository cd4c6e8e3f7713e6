import PayloadExchange.Text.Utf8

/-! # The bytes of a text

A text has the bytes of its characters one after the other. Characters below 0x80 are one byte,
their number; every byte of a longer form is 0x80 or more, so a small byte stands for a character
of its own.
-/

namespace PayloadExchange.Text

theorem utf8_ofList (chars : List Char) :
    utf8 (String.ofList chars) = chars.flatMap String.utf8EncodeChar := by
  simp [utf8, List.utf8Encode, List.data_toByteArray]

theorem utf8_append (a b : String) : utf8 (a ++ b) = utf8 a ++ utf8 b := by
  simp [utf8, String.toByteArray_append]

/-- A byte that carries a mark above its own bits is not small. -/
theorem marked_large {n bound mark : Nat} (positive : 0 < bound) (top : 0x80 ≤ mark)
    (fits : bound + mark ≤ 256) : 0x80 ≤ (UInt8.ofNat (n % bound + mark)).toNat := by
  have inside := Nat.mod_lt n positive
  rw [UInt8.toNat_ofNat_of_lt' (Nat.lt_of_lt_of_le (Nat.add_lt_add_right inside mark) fits)]
  omega

theorem toNat_of_mem_utf8EncodeChar {c : Char} {byte : UInt8}
    (member : byte ∈ String.utf8EncodeChar c) (small : byte.toNat < 0x80) :
    byte.toNat = c.toNat := by
  simp only [String.utf8EncodeChar] at member
  split at member
  · next single =>
      rw [List.mem_singleton.1 member]
      exact UInt8.toNat_ofNat_of_lt' (Nat.lt_of_le_of_lt single (by decide))
  · exfalso
    have large {n bound mark : Nat} (same : byte = UInt8.ofNat (n % bound + mark))
        (positive : 0 < bound) (top : 0x80 ≤ mark) (fits : bound + mark ≤ 256) : False :=
      Nat.not_lt_of_le (same ▸ marked_large positive top fits) small
    split at member
    · simp only [List.mem_cons, List.not_mem_nil, or_false] at member
      rcases member with same | same
      all_goals exact large same (by decide) (by decide) (by decide)
    split at member
    all_goals
      simp only [List.mem_cons, List.not_mem_nil, or_false] at member
    · rcases member with same | same | same
      all_goals exact large same (by decide) (by decide) (by decide)
    · rcases member with same | same | same | same
      all_goals exact large same (by decide) (by decide) (by decide)

theorem visible_utf8 {chars : List Char} (visible : ∀ c ∈ chars, 0x20 ≤ c.toNat) :
    ∀ byte ∈ utf8 (String.ofList chars), 0x20 ≤ byte := by
  intro byte member
  rw [utf8_ofList] at member
  obtain ⟨c, known, encoded⟩ := List.mem_flatMap.1 member
  rw [UInt8.le_iff_toNat_le]
  rcases Nat.lt_or_ge byte.toNat 0x80 with small | large
  · rw [toNat_of_mem_utf8EncodeChar encoded small]
    exact visible c known
  · exact Nat.le_trans (by decide) large

theorem exists_text_of_small {bytes : Bytes} (small : ∀ byte ∈ bytes, byte.toNat < 0x80) :
    ∃ text, utf8 text = bytes := by
  refine ⟨String.ofList (bytes.map fun byte => Char.ofNat byte.toNat), ?_⟩
  have encoded {byte : UInt8} (member : byte ∈ bytes) :
      String.utf8EncodeChar (Char.ofNat byte.toNat) = [byte] := by
    have low := small byte member
    have valid : byte.toNat.isValidChar := .inl (by omega)
    have number : (Char.ofNat byte.toNat).val.toNat = byte.toNat := by
      rw [Char.ofNat, dif_pos valid]
      rfl
    simp only [String.utf8EncodeChar, number, show byte.toNat ≤ 0x7f by omega, if_true]
    simp
  rw [utf8_ofList, List.flatMap_map]
  clear small
  induction bytes with
  | nil => rfl
  | cons byte bytes ih =>
      rw [List.flatMap_cons, encoded List.mem_cons_self,
        ih fun member => encoded (List.mem_cons_of_mem byte member)]
      rfl

end PayloadExchange.Text
