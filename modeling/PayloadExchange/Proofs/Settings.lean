import PayloadExchange.Environment

/-! # Counts in settings

A count is written in decimal digits, with as many zeros in front as one likes, perhaps a plus sign
before them, and white space around it all. Main statement: a setting is read as the count that it
is written as if that is positive and a 32-bit word holds it, and takes its default in every other
case.
-/

namespace PayloadExchange

namespace Text

def Blank (chars : List Char) : Prop := ∀ c ∈ chars, isBlank c = true

instance (chars : List Char) : Decidable (Blank chars) :=
  decidable_of_iff (chars.all isBlank = true) List.all_eq_true

theorem dropWhile_blank {front rest : List Char} (blank : Blank front)
    (stop : ∀ c ∈ rest.head?, isBlank c = false) : (front ++ rest).dropWhile isBlank = rest := by
  rw [List.dropWhile_append_of_pos blank]
  cases rest with
  | nil => rfl
  | cons c rest => rw [List.dropWhile_cons_of_neg (by simp [stop c rfl])]

/-- What has no white space in it is found between any white space. -/
theorem trim_eq {front core back : List Char} (before : Blank front) (behind : Blank back)
    (filled : core ≠ []) (solid : ∀ c ∈ core, isBlank c = false) :
    trim (front ++ core ++ back) = core := by
  have fromFront : (front ++ core ++ back).dropWhile isBlank = core ++ back := by
    obtain ⟨first, core, rfl⟩ := List.exists_cons_of_ne_nil filled
    rw [List.append_assoc]
    refine dropWhile_blank before fun c same => ?_
    obtain rfl := Option.some.inj same
    exact solid _ List.mem_cons_self
  have fromBack : (core ++ back).reverse.dropWhile isBlank = core.reverse := by
    rw [List.reverse_append]
    refine dropWhile_blank (fun c member => behind c (List.mem_reverse.1 member)) ?_
    exact fun c last => solid c (List.mem_reverse.1 (List.mem_of_mem_head? last))
  rw [trim, fromFront, fromBack, List.reverse_reverse]

theorem exists_trim (chars : List Char) :
    ∃ front back, Blank front ∧ Blank back ∧ chars = front ++ trim chars ++ back := by
  have blank (part : List Char) : Blank (part.takeWhile isBlank) :=
    fun _ member => List.all_eq_true.1 List.all_takeWhile _ member
  have cut (part : List Char) : part = (part.reverse.dropWhile isBlank).reverse
      ++ (part.reverse.takeWhile isBlank).reverse := by
    rw [← List.reverse_append, List.takeWhile_append_dropWhile, List.reverse_reverse]
  refine ⟨chars.takeWhile isBlank, ((chars.dropWhile isBlank).reverse.takeWhile isBlank).reverse,
    blank chars, fun c member => blank _ c (List.mem_reverse.1 member), ?_⟩
  rw [trim, List.append_assoc, ← cut, List.takeWhile_append_dropWhile]

theorem isBlank_eq_false {c : Char} (first : 0x2b ≤ c.toNat) (last : c.toNat ≤ 0x39) :
    isBlank c = false := by
  have none : ∀ n < 0x3a, 0x2b ≤ n → blankRanges.covers n = false := by decide
  exact none c.toNat (Nat.lt_succ_of_le last) first

end Text

namespace Setting

open Text

/-- A numeral for a number: at least one digit, and perhaps one plus sign before the digits. -/
inductive Numeral : List Char → Nat → Prop where
  | digits {digits : List Char} : digits ≠ [] → (∀ c ∈ digits, c.isDigit = true) →
      Numeral digits (Nat.ofDigitChars 10 digits 0)
  | plus {digits : List Char} : digits ≠ [] → (∀ c ∈ digits, c.isDigit = true) →
      Numeral ('+' :: digits) (Nat.ofDigitChars 10 digits 0)

theorem ofDigits_eq (digits : List Char) : ofDigits digits = Nat.ofDigitChars 10 digits 0 := by
  simp only [ofDigits, Nat.ofDigitChars, Nat.mul_comm]

theorem eq_withoutPlus (numeral : List Char) :
    numeral = withoutPlus numeral ∨ numeral = '+' :: withoutPlus numeral := by
  unfold withoutPlus
  split
  · exact .inr rfl
  · exact .inl rfl

theorem withoutPlus_digits {digits : List Char} (areDigits : ∀ c ∈ digits, c.isDigit = true) :
    withoutPlus digits = digits := by
  unfold withoutPlus
  split
  · next rest => exact absurd (areDigits '+' List.mem_cons_self) (by decide)
  · rfl

theorem numeral_iff {numeral : List Char} {number : Nat} :
    Numeral numeral number ↔ withoutPlus numeral ≠ [] ∧
      (∀ c ∈ withoutPlus numeral, c.isDigit = true) ∧ number = ofDigits (withoutPlus numeral) := by
  constructor
  · intro written
    cases written with
    | digits filled areDigits =>
        rw [withoutPlus_digits areDigits]
        exact ⟨filled, areDigits, (ofDigits_eq _).symm⟩
    | plus filled areDigits => exact ⟨filled, areDigits, (ofDigits_eq _).symm⟩
  · rintro ⟨filled, areDigits, rfl⟩
    have shape := eq_withoutPlus numeral
    generalize withoutPlus numeral = digits at filled areDigits shape
    rw [ofDigits_eq]
    rcases shape with rfl | rfl
    · exact .digits filled areDigits
    · exact .plus filled areDigits

/-- The numerals of numbers that a word holds are read. -/
theorem word?_eq_some_iff {numeral : List Char} {word : UInt32} :
    word? numeral = some word ↔ Numeral numeral word.toNat := by
  rw [numeral_iff]
  simp only [word?, List.isEmpty_iff, List.all_eq_true]
  constructor
  · intro read
    split at read
    · cases read
    · next filled =>
        split at read
        · next areDigits =>
            split at read
            · next fits =>
                obtain rfl := Option.some.inj read
                exact ⟨filled, areDigits, UInt32.toNat_ofNat_of_lt' fits⟩
            · cases read
        · cases read
  · rintro ⟨filled, areDigits, same⟩
    have fits : ofDigits (withoutPlus numeral) < UInt32.size := same ▸ word.toNat_lt
    rw [if_neg filled, if_pos areDigits, if_pos fits, ← same, UInt32.ofNat_toNat]

theorem Numeral.solid {numeral : List Char} {number : Nat} (written : Numeral numeral number) :
    numeral ≠ [] ∧ ∀ c ∈ numeral, isBlank c = false := by
  have digit {c : Char} (isDigit : c.isDigit = true) : isBlank c = false := by
    simp only [Char.isDigit, Bool.and_eq_true, decide_eq_true_eq, ge_iff_le,
      UInt32.le_iff_toNat_le] at isDigit
    exact isBlank_eq_false (Nat.le_trans (by decide) isDigit.1) isDigit.2
  cases written with
  | digits filled areDigits => exact ⟨filled, fun c member => digit (areDigits c member)⟩
  | plus filled areDigits =>
      refine ⟨List.cons_ne_nil _ _, fun c member => ?_⟩
      rcases List.mem_cons.1 member with rfl | listed
      · decide
      · exact digit (areDigits c listed)

/-- The value of a variable is a text, and this a numeral for a positive number that a word
    holds, with white space around it. -/
inductive Sets : Option Bytes → Nat → Prop where
  | numeral {text : String} {front numeral back : List Char} {number : Nat} :
      text.toList = front ++ numeral ++ back → Blank front → Blank back →
      Numeral numeral number → 0 < number → number < 4294967296 → Sets (some (utf8 text)) number

theorem Sets.positive {value : Option Bytes} {number : Nat} (sets : Sets value number) :
    0 < number := by
  cases sets
  assumption

/-- A word is read off a value just if the value sets it. -/
theorem sets_iff {value : Option Bytes} {word : UInt32} : Sets value word.toNat ↔
    word ≠ 0 ∧ ((text? value).bind fun text => word? (trim text.toList)) = some word := by
  constructor
  · intro sets
    generalize same : word.toNat = number at sets
    cases sets with
    | @numeral text front numeral back _ shape before behind written positive fits =>
        subst same
        refine ⟨?_, ?_⟩
        · rintro rfl
          exact absurd positive (by decide)
        · obtain ⟨filled, solid⟩ := written.solid
          rw [text?, Option.bind_some, ofUtf8?_utf8, Option.bind_some, shape,
            trim_eq before behind filled solid, word?_eq_some_iff]
          exact written
  · rintro ⟨positive, read⟩
    obtain ⟨text, known, number⟩ := Option.bind_eq_some_iff.1 read
    obtain ⟨bytes, rfl, decoded⟩ := Option.bind_eq_some_iff.1 known
    obtain ⟨front, back, before, behind, shape⟩ := exists_trim text.toList
    rw [← utf8_of_ofUtf8? decoded]
    refine .numeral shape before behind (word?_eq_some_iff.1 number) ?_ word.toNat_lt
    exact Nat.pos_of_ne_zero fun zero => positive (UInt32.toNat_inj.1 zero)

theorem count_of_sets {value : Option Bytes} {number : Nat} (sets : Sets value number)
    (default : UInt32) : (count value default).toNat = number := by
  obtain ⟨word, rfl⟩ : ∃ word : UInt32, word.toNat = number := by
    cases sets with
    | numeral _ _ _ _ _ fits => exact ⟨.ofNat number, UInt32.toNat_ofNat_of_lt' fits⟩
  obtain ⟨positive, read⟩ := sets_iff.1 sets
  rw [count, read, Option.filter_some_pos (by simpa using positive)]
  rfl

theorem count_of_unset {value : Option Bytes} (unset : ∀ number, ¬ Sets value number)
    (default : UInt32) : count value default = default := by
  unfold count
  cases read : (text? value).bind fun text => word? (trim text.toList) with
  | none => rfl
  | some word =>
      by_cases zero : word = 0
      · rw [Option.filter_some_neg (by simpa using zero)]
        rfl
      · exact absurd (sets_iff.2 ⟨zero, read⟩) (unset _)

theorem ofDigitChars_zeros (zeros : Nat) :
    Nat.ofDigitChars 10 (List.replicate zeros '0') 0 = 0 := by
  induction zeros with
  | zero => rfl
  | succ zeros ih =>
      rw [List.replicate_succ, Nat.ofDigitChars_cons]
      exact ih

theorem numeral_zeros (zeros n : Nat) {sign : List Char} (signed : sign = [] ∨ sign = ['+']) :
    Numeral (sign ++ List.replicate zeros '0' ++ (toString n).toList) n := by
  have text : (toString n).toList = Nat.toDigits 10 n := by
    rw [show toString n = String.ofList (Nat.toDigits 10 n) from Nat.repr_eq_ofList_toDigits,
      String.toList_ofList]
  have filled : List.replicate zeros '0' ++ Nat.toDigits 10 n ≠ [] :=
    List.append_ne_nil_of_right_ne_nil _ Nat.toDigits_ne_nil
  have areDigits : ∀ c ∈ List.replicate zeros '0' ++ Nat.toDigits 10 n, c.isDigit = true := by
    intro c member
    rcases List.mem_append.1 member with zero | digit
    · rw [List.eq_of_mem_replicate zero]
      decide
    · exact Nat.isDigit_of_mem_toDigits (by decide) (by decide) digit
  have value : Nat.ofDigitChars 10 (List.replicate zeros '0' ++ Nat.toDigits 10 n) 0 = n := by
    rw [Nat.ofDigitChars_append, ofDigitChars_zeros, Nat.ofDigitChars_ten_toDigits]
  rw [List.append_assoc, text]
  rcases signed with rfl | rfl
  · have written := Numeral.digits filled areDigits
    rwa [value] at written
  · have written := Numeral.plus filled areDigits
    rwa [value] at written

/-- A count is read exactly: a value that sets a positive number below 2^32 is read as this number,
    and every other value leaves the default. So the decimal text of each such number is read back
    from among zeros in front, a plus sign and white space; and the limits of a registry are the
    usual ones unless the variable sets a number. -/
theorem count_read_exactly :
    (∀ (value : Option Bytes) (default : UInt32),
      (∀ number, Sets value number → (count value default).toNat = number) ∧
      ((∀ number, ¬ Sets value number) → count value default = default)) ∧
    (∀ (number default : UInt32) (front sign back : List Char) (zeros : Nat), number ≠ 0 →
      Blank front → sign = [] ∨ sign = ['+'] → Blank back →
      count (some (utf8 (String.ofList (front ++ (sign ++ List.replicate zeros '0'
        ++ (toString number.toNat).toList) ++ back)))) default = number) ∧
    ∀ environment : Environment, Config.ofEnvironment environment = {} ↔
      ∀ number, ¬ Sets (environment Contract.maxLiveHandlesVariable) number := by
  refine ⟨fun value default => ⟨fun number sets => count_of_sets sets default,
    fun unset => count_of_unset unset default⟩, ?_, ?_⟩
  · intro number default front sign back zeros positive before signed behind
    refine UInt32.toNat_inj.1 (count_of_sets (.numeral String.toList_ofList before behind
      (numeral_zeros zeros number.toNat signed) ?_ number.toNat_lt) default)
    exact Nat.pos_of_ne_zero fun zero => positive (UInt32.toNat_inj.1 zero)
  · intro environment
    have limit : Config.ofEnvironment environment = {} ↔
        count (environment Contract.maxLiveHandlesVariable) 0 = 0 := by
      simp [Config.ofEnvironment]
    rw [limit]
    refine ⟨fun none number sets => ?_, fun unset => count_of_unset unset 0⟩
    have zero := count_of_sets sets 0
    rw [none] at zero
    exact absurd sets.positive (zero ▸ by decide)

/-- Seven behind a plus sign and zeros, with blanks around it; the largest word, between two wide
    spaces; the next number, which no word holds; and no value at all. -/
theorem padded_words_read :
    let seven : Option Bytes := some (utf8 " \t+007\n")
    let tooLarge : Option Bytes := some (utf8 "4294967296")
    Sets seven 7 ∧ (count seven 5).toNat = 7 ∧
      count (some (utf8 (String.ofList (['\u3000'] ++ ([] ++ List.replicate 3 '0'
        ++ (toString 4294967295).toList) ++ ['\u3000'])))) 5 = 4294967295 ∧
      (∀ number, ¬ Sets tooLarge number) ∧ count tooLarge 5 = 5 ∧
      Config.ofEnvironment (fun _ => none) = {} := by
  intro seven tooLarge
  obtain ⟨exactly, padded, configured⟩ := count_read_exactly
  have digits : ∀ c ∈ "007".toList, c.isDigit = true := List.all_eq_true.1 rfl
  have written : Numeral "+007".toList 7 := .plus (by decide) digits
  have parts : " \t+007\n".toList = [' ', '\t'] ++ "+007".toList ++ ['\n'] := by decide
  have sets : Sets seven 7 :=
    .numeral parts (by decide) (by decide) written (by decide) (by decide)
  have none (number : Nat) : ¬ Sets tooLarge number := by
    -- A number that is set would be read in place of either default.
    intro large
    have one := (exactly tooLarge 1).1 number large
    have two := (exactly tooLarge 2).1 number large
    rw [← one, show count tooLarge 1 = 1 by decide +kernel,
      show count tooLarge 2 = 2 by decide +kernel] at two
    exact absurd two (by decide)
  refine ⟨sets, (exactly seven 5).1 7 sets, ?_, none, (exactly tooLarge 5).2 none, ?_⟩
  · exact padded 4294967295 5 _ [] _ 3 (by decide) (by decide) (.inl rfl) (by decide)
  · exact (configured _).2 fun number sets => by cases sets

end Setting

end PayloadExchange
