import PayloadExchange.Json.Numeral
import PayloadExchange.Json.Printer

/-! # Integer literals

An integer literal that a 64-bit word holds, signed or unsigned, is read as the integer that it
denotes. The other way round, a number token that is such a literal is read to its end and
denotes an integer: no float comes of it.
-/

namespace PayloadExchange.Json

/-- The number is an integer that a 64-bit word holds. -/
def Number.IsWord : Number → Prop
  | .integer value => -9223372036854775808 ≤ value ∧ value ≤ 18446744073709551615
  | .float _ => False

/-- A number may go on with this character. -/
def extendsNumber (c : Char) : Bool :=
  c.isDigit || c == '.' || c == '+' || c == '-' || c == 'e' || c == 'E'

/-- What follows does not belong to a number before it. -/
def Ends (rest : List Char) : Prop := ∀ c ∈ rest.head?, extendsNumber c = false

/-- A decimal integer in its only form: no zero stands in front of other digits. -/
structure WholeDigits (digits : List Char) : Prop where
  nonempty : digits ≠ []
  areDigits : ∀ c ∈ digits, c.isDigit = true
  lead : digits.head? = some '0' → digits = ['0']

namespace Ends

theorem nil : Ends [] := by
  intro c member
  simp at member

theorem cons {c : Char} {rest : List Char} (plain : extendsNumber c = false) :
    Ends (c :: rest) := by
  intro d member
  obtain rfl : c = d := by simpa using member
  exact plain

theorem dropWhile (rest : List Char) : Ends (rest.dropWhile extendsNumber) := by
  intro c member
  have stopped := List.head?_dropWhile_not extendsNumber rest
  rwa [show (rest.dropWhile extendsNumber).head? = some c from member] at stopped

theorem noDigit {rest : List Char} (ends : Ends rest) : ∀ c ∈ rest.head?, c.isDigit = false := by
  intro c member
  have plain := ends c member
  simp only [extendsNumber, Bool.or_eq_false_iff] at plain
  exact plain.1.1.1.1.1

end Ends

theorem eq_zero_of_lead {n : Nat} (lead : (decimalDigits n).head? = some '0') : n = 0 := by
  unfold decimalDigits at lead
  induction n using Nat.strongRecOn with
  | ind n ih =>
      by_cases small : n < 10
      · rw [Nat.toDigits_of_lt_base small] at lead
        have single : ∀ digit < 10, Nat.digitChar digit = '0' → digit = 0 := by decide
        exact single n small (Option.some.inj lead)
      · rw [Nat.toDigits_of_base_le (by decide) (by omega), List.head?_append,
          List.head?_eq_some_head Nat.toDigits_ne_nil, Option.some_or,
          ← List.head?_eq_some_head] at lead
        have := ih (n / 10) (by omega) lead
        omega

theorem wholeDigits_decimalDigits (n : Nat) : WholeDigits (decimalDigits n) where
  nonempty := Nat.toDigits_ne_nil
  areDigits := fun c member => Nat.isDigit_of_mem_toDigits (by decide) (by decide) member
  lead := by
    intro lead
    rw [eq_zero_of_lead lead]
    rfl

def digitValues (digits : List Char) : List Nat := digits.map fun c => c.toNat - '0'.toNat

theorem digits_append {digits rest : List Char} (areDigits : ∀ c ∈ digits, c.isDigit = true)
    (stop : ∀ c ∈ rest.head?, c.isDigit = false) :
    Numeral.digits (digits ++ rest) = (digitValues digits, rest) := by
  have none : rest.takeWhile Char.isDigit = [] ∧ rest.dropWhile Char.isDigit = rest := by
    cases rest with
    | nil => exact ⟨rfl, rfl⟩
    | cons c rest =>
        have plain := stop c rfl
        simp [plain]
  simp only [Numeral.digits, List.takeWhile_append_of_pos areDigits,
    List.dropWhile_append_of_pos areDigits, none, List.append_nil, digitValues]

theorem scanWhole_digits {digits rest : List Char} (whole : WholeDigits digits)
    (stop : ∀ c ∈ rest.head?, c.isDigit = false) :
    Numeral.scanWhole (digits ++ rest) = .ok (digitValues digits, rest) := by
  cases digits with
  | nil => exact absurd rfl whole.nonempty
  | cons first digits =>
      have isDigit := whole.areDigits first List.mem_cons_self
      by_cases zero : first = '0'
      · subst zero
        obtain rfl : digits = [] := by simpa using whole.lead rfl
        cases rest with
        | nil => rfl
        | cons c rest => simp [Numeral.scanWhole, stop c rfl, digitValues]
      · rw [← digits_append whole.areDigits stop, List.cons_append, Numeral.scanWhole]
        · simp [isDigit]
        · simpa using zero

theorem Ends.scanFraction {rest : List Char} (ends : Ends rest) :
    Numeral.scanFraction rest = .ok ([], rest) := by
  cases rest with
  | nil => rfl
  | cons c rest =>
      have plain := ends c rfl
      unfold Numeral.scanFraction
      split
      · simp_all [extendsNumber]
      · rfl

theorem Ends.scanExponent {rest : List Char} (ends : Ends rest) :
    Numeral.scanExponent rest = .ok (none, rest) := by
  cases rest with
  | nil => rfl
  | cons c rest =>
      have plain := ends c rfl
      simp only [extendsNumber, Bool.or_eq_false_iff, beq_eq_false_iff_ne] at plain
      simp [Numeral.scanExponent, plain]

theorem scanUnsigned_digits {digits rest : List Char} (negative : Bool)
    (whole : WholeDigits digits) (ends : Ends rest) :
    Numeral.scanUnsigned negative (digits ++ rest)
      = .ok (⟨negative, digitValues digits, [], none⟩, rest) := by
  simp [Numeral.scanUnsigned, scanWhole_digits whole ends.noDigit, ends.scanFraction,
    ends.scanExponent, bind, Except.bind, pure, Except.pure]

theorem le_ofDigitChars (digits : List Char) (number : Nat) :
    number ≤ Nat.ofDigitChars 10 digits number := by
  rw [Nat.ofDigitChars_eq_ofDigitChars_zero]
  exact Nat.le_add_right_of_le (Nat.le_mul_of_pos_left number (Nat.pow_pos (by decide)))

theorem appendWhile_digits {limit : Nat} (digits : List Char) {number : Nat}
    (fits : Nat.ofDigitChars 10 digits number ≤ limit) :
    Numeral.appendWhile limit number (digitValues digits)
      = (Nat.ofDigitChars 10 digits number, []) := by
  induction digits generalizing number with
  | nil => rfl
  | cons c digits ih =>
      rw [Nat.ofDigitChars_cons] at fits ⊢
      have below := Nat.le_trans (le_ofDigitChars digits _) fits
      simp only [digitValues, List.map_cons, Numeral.appendWhile]
      rw [Nat.mul_comm number, if_pos below]
      exact ih fits

theorem toNumber_natural {digits : List Char}
    (fits : Nat.ofDigitChars 10 digits 0 ≤ 18446744073709551615) :
    Numeral.toNumber ⟨false, digitValues digits, [], none⟩
      = .ok (.integer (Nat.ofDigitChars 10 digits 0)) := by
  have read : Numeral.appendWhile Numeral.wordLimit 0 (digitValues digits) = _ :=
    appendWhile_digits digits fits
  simp [Numeral.toNumber, read]

theorem toNumber_negative {digits : List Char} (positive : 0 < Nat.ofDigitChars 10 digits 0)
    (fits : Nat.ofDigitChars 10 digits 0 ≤ 9223372036854775808) :
    Numeral.toNumber ⟨true, digitValues digits, [], none⟩
      = .ok (.integer (-(Nat.ofDigitChars 10 digits 0 : Int))) := by
  have read : Numeral.appendWhile Numeral.wordLimit 0 (digitValues digits) = _ :=
    appendWhile_digits digits (Nat.le_trans fits (by decide))
  simp [Numeral.toNumber, read, positive, fits]

theorem scanNumber_natural {digits rest : List Char} (whole : WholeDigits digits)
    (ends : Ends rest) (fits : Nat.ofDigitChars 10 digits 0 ≤ 18446744073709551615) :
    scanNumber (digits ++ rest) = .ok (.integer (Nat.ofDigitChars 10 digits 0), rest) := by
  have unsigned : Numeral.scan (digits ++ rest) = Numeral.scanUnsigned false (digits ++ rest) := by
    unfold Numeral.scan
    split
    · next minus =>
        cases digits with
        | nil => exact absurd rfl whole.nonempty
        | cons first digits =>
            have isDigit := whole.areDigits first List.mem_cons_self
            rw [(List.cons.inj minus).1] at isDigit
            exact absurd isDigit (by decide)
    · rfl
  simp [scanNumber, unsigned, scanUnsigned_digits false whole ends, toNumber_natural fits, bind,
    Except.bind, pure, Except.pure]

theorem scanNumber_negative {digits rest : List Char} (whole : WholeDigits digits)
    (ends : Ends rest) (positive : 0 < Nat.ofDigitChars 10 digits 0)
    (fits : Nat.ofDigitChars 10 digits 0 ≤ 9223372036854775808) :
    scanNumber ('-' :: (digits ++ rest))
      = .ok (.integer (-(Nat.ofDigitChars 10 digits 0 : Int)), rest) := by
  simp [scanNumber, Numeral.scan, scanUnsigned_digits true whole ends,
    toNumber_negative positive fits, bind, Except.bind, pure, Except.pure]

/-- The token is an integer literal that a 64-bit word holds, and not the negative zero. -/
def isWordLiteral : List Char → Bool
  | '-' :: digits =>
      digits.all Char.isDigit && 0 < Nat.ofDigitChars 10 digits 0
        && Nat.ofDigitChars 10 digits 0 ≤ 9223372036854775808
  | digits =>
      digits.all Char.isDigit && Nat.ofDigitChars 10 digits 0 ≤ 18446744073709551615

theorem wholeDigits_of_scanWhole {digits rest : List Char} {found : List Nat × List Char}
    (nonempty : digits ≠ []) (areDigits : ∀ c ∈ digits, c.isDigit = true)
    (scanned : Numeral.scanWhole (digits ++ rest) = .ok found) : WholeDigits digits where
  nonempty := nonempty
  areDigits := areDigits
  lead := by
    intro lead
    obtain ⟨tail, rfl⟩ := List.head?_eq_some_iff.1 lead
    cases tail with
    | nil => rfl
    | cons second tail =>
        have isDigit := areDigits second (by simp)
        simp [Numeral.scanWhole, isDigit] at scanned

theorem scanWhole_of_scanUnsigned {negative : Bool} {chars rest : List Char} {numeral : Numeral}
    (scanned : Numeral.scanUnsigned negative chars = .ok (numeral, rest)) :
    ∃ found, Numeral.scanWhole chars = .ok found := by
  cases whole : Numeral.scanWhole chars with
  | error stop => simp [Numeral.scanUnsigned, whole, bind, Except.bind] at scanned
  | ok found => exact ⟨found, rfl⟩

theorem scan_of_scanNumber {chars rest : List Char} {number : Number}
    (scanned : scanNumber chars = .ok (number, rest)) :
    ∃ numeral after, Numeral.scan chars = .ok (numeral, after) := by
  cases read : Numeral.scan chars with
  | error stop => simp [scanNumber, read, bind, Except.bind] at scanned
  | ok found => exact ⟨found.1, found.2, rfl⟩

/-- A number whose token is the literal of a word denotes a word, and the token is all that
    is read. -/
theorem scanNumber_wordLiteral {c : Char} {rest after : List Char} {number : Number}
    (literal : isWordLiteral (c :: rest.takeWhile extendsNumber) = true)
    (scanned : scanNumber (c :: rest) = .ok (number, after)) :
    number.IsWord ∧ after = rest.dropWhile extendsNumber := by
  have ends := Ends.dropWhile rest
  have split : rest.takeWhile extendsNumber ++ rest.dropWhile extendsNumber = rest :=
    List.takeWhile_append_dropWhile
  generalize rest.takeWhile extendsNumber = token at literal split
  generalize rest.dropWhile extendsNumber = left at ends split
  subst split
  obtain ⟨numeral, final, read⟩ := scan_of_scanNumber scanned
  by_cases minus : c = '-'
  · subst minus
    simp only [isWordLiteral, Bool.and_eq_true, List.all_eq_true, decide_eq_true_eq] at literal
    obtain ⟨⟨areDigits, positive⟩, fits⟩ := literal
    have nonempty : token ≠ [] := by
      rintro rfl
      simp at positive
    obtain ⟨found, readWhole⟩ := scanWhole_of_scanUnsigned read
    have whole := wholeDigits_of_scanWhole nonempty areDigits readWhole
    rw [scanNumber_negative whole ends positive fits] at scanned
    obtain ⟨rfl, rfl⟩ := Prod.mk.inj (Except.ok.inj scanned)
    refine ⟨⟨by omega, by omega⟩, rfl⟩
  · have digitLiteral : (c :: token).all Char.isDigit = true ∧
        Nat.ofDigitChars 10 (c :: token) 0 ≤ 18446744073709551615 := by
      unfold isWordLiteral at literal
      split at literal
      · next negative => exact absurd (List.cons.inj negative).1 minus
      · simpa using literal
    obtain ⟨areDigits, fits⟩ := digitLiteral
    have unsigned : Numeral.scanUnsigned false (c :: token ++ left) = .ok (numeral, final) := by
      unfold Numeral.scan at read
      split at read
      · next negative => exact absurd (List.cons.inj negative).1 minus
      · exact read
    obtain ⟨found, readWhole⟩ := scanWhole_of_scanUnsigned unsigned
    have whole := wholeDigits_of_scanWhole (List.cons_ne_nil c token)
      (List.all_eq_true.1 areDigits) readWhole
    rw [← List.cons_append, scanNumber_natural whole ends fits] at scanned
    obtain ⟨rfl, rfl⟩ := Prod.mk.inj (Except.ok.inj scanned)
    exact ⟨⟨by omega, by omega⟩, rfl⟩

end PayloadExchange.Json
