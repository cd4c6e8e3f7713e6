import PayloadExchange.Json.StringLiteral

/-! # String literals are read back

Every character has a written form that is read as that character, controls included, so a
whole literal is read as its text. Where a literal ends is known without reading it: at the
first quote that no backslash precedes.
-/

namespace PayloadExchange.Json.StringLiteral

theorem hexValue?_hexDigit : ∀ digit < 16, hexValue? (hexDigit digit) = some digit := by decide

theorem scanNumeric_control {c : Char} (control : c.toNat < 0x20) (rest : List Char) :
    scanNumeric ('0' :: '0' :: hexDigit (c.toNat / 16) :: hexDigit (c.toNat % 16) :: rest)
      = .ok (c, rest) := by
  have high := hexValue?_hexDigit (c.toNat / 16) (by omega)
  have low := hexValue?_hexDigit (c.toNat % 16) (by omega)
  have unit : unit? '0' '0' (hexDigit (c.toNat / 16)) (hexDigit (c.toNat % 16))
      = some c.toNat := by
    have zero : hexValue? '0' = some 0 := by decide
    simp only [unit?, zero, high, low, Option.pure_def, Option.bind_eq_bind, Option.bind_some,
      Option.some.injEq]
    omega
  have trailing : isTrailing c.toNat = false := by
    simp only [isTrailing, Bool.and_eq_false_iff, decide_eq_false_iff_not]
    omega
  have leading : isLeading c.toNat = false := by
    simp only [isLeading, Bool.and_eq_false_iff, decide_eq_false_iff_not]
    omega
  simp [scanNumeric, scanUnit, unit, trailing, leading, bind, Except.bind]

theorem scan_escape (done : List Char) (c : Char) (rest : List Char) :
    scan done (escape c ++ rest) = scan (c :: done) rest := by
  have letter {mark named : Char} (means : named? mark = some named) (plain : mark ≠ 'u') :
      scan done ('\\' :: mark :: rest) = scan (named :: done) rest := by
    rw [scan_cons]
    simp [scanEscape, means, plain]
  unfold escape
  iterate 7
    split
    · next same =>
        rw [same]
        exact letter rfl (by decide)
  split
  · next control =>
      simp only [List.cons_append, List.nil_append]
      rw [scan_cons]
      simp [scanEscape, scanNumeric_control control]
  · next quote backslash _ _ _ _ _ control =>
      rw [List.singleton_append, scan_cons, if_neg quote, if_neg backslash, if_neg control]

theorem scan_escapes (chars done rest : List Char) :
    scan done (chars.flatMap escape ++ '"' :: rest)
      = .ok (String.ofList (done.reverse ++ chars), rest) := by
  induction chars generalizing done with
  | nil =>
      rw [List.flatMap_nil, List.nil_append, scan_cons, if_pos rfl, List.append_nil]
  | cons c chars ih =>
      rw [List.flatMap_cons, List.append_assoc, scan_escape, ih, List.reverse_cons,
        List.append_assoc, List.singleton_append]

/-- A text is read back from its literal, whose opening quote is already behind. -/
theorem scan_print (text : String) (rest : List Char) :
    scan [] (text.toList.flatMap escape ++ '"' :: rest) = .ok (text, rest) := by
  rw [scan_escapes, List.reverse_nil, List.nil_append, String.ofList_toList]

/-- What stands after the closing quote. -/
def afterQuote : List Char → List Char
  | [] => []
  | '"' :: rest => rest
  | '\\' :: _ :: rest => afterQuote rest
  | _ :: rest => afterQuote rest

theorem afterQuote_length (chars : List Char) : (afterQuote chars).length ≤ chars.length := by
  fun_induction afterQuote chars with
  | case1 => exact Nat.le_refl _
  | case2 => simp
  | case3 _ _ ih => simp only [List.length_cons]; omega
  | case4 _ _ _ _ ih => simp only [List.length_cons]; omega

theorem afterQuote_plain {c : Char} (rest : List Char) (quote : c ≠ '"') (backslash : c ≠ '\\') :
    afterQuote (c :: rest) = afterQuote rest := by
  rw [afterQuote]
  · exact quote
  · intro d tail same
    exact absurd same backslash

theorem plain_of_hexValue? {c : Char} {value : Nat} (digit : hexValue? c = some value) :
    c ≠ '"' ∧ c ≠ '\\' := by
  have quote : hexValue? '"' = none := by decide
  have backslash : hexValue? '\\' = none := by decide
  constructor
  · rintro rfl
    simp [quote] at digit
  · rintro rfl
    simp [backslash] at digit

theorem afterQuote_unit {chars rest : List Char} {unit : Nat}
    (scanned : scanUnit chars = .ok (unit, rest)) : afterQuote chars = afterQuote rest := by
  unfold scanUnit at scanned
  split at scanned
  · next a b c d tail =>
      split at scanned
      · next found =>
          obtain ⟨-, rfl⟩ := Prod.mk.inj (Except.ok.inj scanned)
          simp only [unit?, Option.pure_def, Option.bind_eq_bind, Option.bind_eq_some_iff] at found
          obtain ⟨_, first, _, second, _, third, _, fourth, -⟩ := found
          have skip {digit : Char} {value : Nat} (tail : List Char)
              (hex : hexValue? digit = some value) : afterQuote (digit :: tail) = afterQuote tail :=
            afterQuote_plain tail (plain_of_hexValue? hex).1 (plain_of_hexValue? hex).2
          rw [skip _ first, skip _ second, skip _ third, skip _ fourth]
      · simp at scanned
  · simp at scanned

theorem eq_cons_of_scanMark {expected : Char} {chars rest : List Char}
    (scanned : scanMark expected chars = .ok rest) : chars = expected :: rest := by
  cases chars with
  | nil => simp [scanMark] at scanned
  | cons c tail =>
      simp only [scanMark] at scanned
      split at scanned
      · next same => rw [same, Except.ok.inj scanned]
      · simp at scanned

theorem afterQuote_numeric {chars rest : List Char} {c : Char}
    (scanned : scanNumeric chars = .ok (c, rest)) : afterQuote chars = afterQuote rest := by
  unfold scanNumeric at scanned
  cases first : scanUnit chars with
  | error stop => simp [first, bind, Except.bind] at scanned
  | ok found =>
      rw [afterQuote_unit first]
      simp only [first, bind, Except.bind] at scanned
      split at scanned
      · simp at scanned
      split at scanned
      · cases mark : scanMark '\\' found.2 with
        | error stop => simp [mark] at scanned
        | ok afterMark =>
            simp only [mark] at scanned
            cases letter : scanMark 'u' afterMark with
            | error stop => simp [letter] at scanned
            | ok afterLetter =>
                simp only [letter] at scanned
                rw [eq_cons_of_scanMark mark, eq_cons_of_scanMark letter, afterQuote]
                cases second : scanUnit afterLetter with
                | error stop => simp [second] at scanned
                | ok trailing =>
                    rw [afterQuote_unit second]
                    simp only [second] at scanned
                    split at scanned
                    · rw [(Prod.mk.inj (Except.ok.inj scanned)).2]
                    · simp at scanned
      · rw [(Prod.mk.inj (Except.ok.inj scanned)).2]

theorem afterQuote_escape {chars rest : List Char} {c : Char}
    (scanned : scanEscape chars = .ok (c, rest)) :
    afterQuote ('\\' :: chars) = afterQuote rest := by
  cases chars with
  | nil => simp [scanEscape] at scanned
  | cons mark tail =>
      rw [afterQuote]
      simp only [scanEscape] at scanned
      split at scanned
      · exact afterQuote_numeric scanned
      · split at scanned
        · rw [(Prod.mk.inj (Except.ok.inj scanned)).2]
        · simp at scanned

/-- A literal that can be read ends where it seems to end. -/
theorem afterQuote_scan {done chars rest : List Char} {text : String}
    (scanned : scan done chars = .ok (text, rest)) : afterQuote chars = rest := by
  fun_induction scan done chars with
  | case1 => simp at scanned
  | case2 done tail =>
      rw [afterQuote]
      exact (Prod.mk.inj (Except.ok.inj scanned)).2
  | case3 done tail escaped after found _ _ ih =>
      rw [afterQuote_escape found]
      exact ih scanned
  | case4 => simp at scanned
  | case5 => simp at scanned
  | case6 done c tail quote backslash _ ih =>
      rw [afterQuote_plain tail quote backslash]
      exact ih scanned

end PayloadExchange.Json.StringLiteral
