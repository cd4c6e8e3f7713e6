import PayloadExchange.Proofs.Json.Grammar
import PayloadExchange.Proofs.Sequence

/-! # Numbers against the grammar

What is taken as a number is a numeral of the grammar, and an integer that a word holds is exact.
The scanner goes on while it can, so the converse needs a rest that no number goes on with; then
a number is read as if it stood alone.
-/

namespace PayloadExchange.Json

namespace Numeral

theorem areDigits_of_scanDigits {chars rest : List Char} {found : List Nat}
    (scanned : scanDigits chars = .ok (found, rest)) :
    ∃ token, chars = token ++ rest ∧ AreDigits token ∧ found ≠ [] := by
  have whole : chars.takeWhile Char.isDigit ++ (digits chars).2 = chars :=
    List.takeWhile_append_dropWhile
  have values : (digits chars).1 = digitValues (chars.takeWhile Char.isDigit) := rfl
  unfold scanDigits at scanned
  split at scanned
  · cases scanned
  · next some =>
      rw [Except.ok.inj scanned] at some whole values
      have nonempty : found ≠ [] := by
        rintro rfl
        exact some rest rfl
      refine ⟨_, whole.symm, ⟨?_, List.all_eq_true.1 List.all_takeWhile⟩, nonempty⟩
      intro none
      rw [none] at values
      exact nonempty values

theorem wholeText_of_scanWhole {chars rest : List Char} {found : List Nat}
    (scanned : scanWhole chars = .ok (found, rest)) :
    ∃ token, chars = token ++ rest ∧ WholeDigits token ∧ found = digitValues token := by
  unfold scanWhole at scanned
  split at scanned
  · cases scanned
  · split at scanned
    · cases scanned
    · obtain ⟨rfl, rfl⟩ := Prod.mk.inj (Except.ok.inj scanned)
      exact ⟨['0'], rfl, wholeDigits_decimalDigits 0, rfl⟩
  · next c tail notZero =>
      split at scanned
      · next isDigit =>
          obtain ⟨rfl, rfl⟩ := Prod.mk.inj (Except.ok.inj scanned)
          refine ⟨(c :: tail).takeWhile Char.isDigit, List.takeWhile_append_dropWhile.symm,
            ⟨?_, List.all_eq_true.1 List.all_takeWhile, ?_⟩, rfl⟩
          · simp [isDigit]
          · intro lead
            rw [List.takeWhile_cons_of_pos isDigit] at lead
            exact absurd (Option.some.inj lead) (by simpa using notZero)
      · cases scanned

theorem fractionForm_of_scanFraction {chars rest : List Char} {found : List Nat}
    (scanned : scanFraction chars = .ok (found, rest)) :
    ∃ token, chars = token ++ rest ∧ FractionForm token ∧ (found = [] ↔ token = []) := by
  unfold scanFraction at scanned
  split at scanned
  · obtain ⟨token, rfl, digits, nonempty⟩ := areDigits_of_scanDigits scanned
    exact ⟨'.' :: token, rfl, .digits digits, by simp [nonempty]⟩
  · obtain ⟨rfl, rfl⟩ := Prod.mk.inj (Except.ok.inj scanned)
    exact ⟨[], rfl, .none, by simp⟩

theorem sign_of_exponentSign (chars : List Char) :
    ∃ sign ∈ [[], ['+'], ['-']], chars = sign ++ (exponentSign chars).2 := by
  unfold exponentSign
  split
  · exact ⟨['+'], by simp, rfl⟩
  · exact ⟨['-'], by simp, rfl⟩
  · exact ⟨[], by simp, rfl⟩

theorem exponentForm_of_scanExponent {chars rest : List Char} {found : Option Exponent}
    (scanned : scanExponent chars = .ok (found, rest)) :
    ∃ token, chars = token ++ rest ∧ ExponentForm token ∧ (found = none ↔ token = []) := by
  unfold scanExponent at scanned
  split at scanned
  · next mark tail =>
      split at scanned
      · next isMark =>
          obtain ⟨sign, known, signed⟩ := sign_of_exponentSign tail
          generalize exponentSign tail = signs at signed scanned
          obtain ⟨negative, unsigned⟩ := signs
          obtain ⟨⟨found, last⟩, read, scanned⟩ := ok_of_bind scanned
          obtain ⟨rfl, rfl⟩ := Prod.mk.inj (Except.ok.inj scanned)
          obtain ⟨token, behind, digits, -⟩ := areDigits_of_scanDigits read
          refine ⟨mark :: (sign ++ token), ?_, .digits (by simpa using isMark) known digits,
            by simp⟩
          rw [signed, behind, List.cons_append, List.append_assoc]
      · obtain ⟨rfl, rfl⟩ := Prod.mk.inj (Except.ok.inj scanned)
        exact ⟨[], rfl, .none, by simp⟩
  · obtain ⟨rfl, rfl⟩ := Prod.mk.inj (Except.ok.inj scanned)
    exact ⟨[], rfl, .none, by simp⟩

/-- The token of a numeral, in its parts. -/
structure Written (numeral : Numeral) (sign whole fraction exponent : List Char) : Prop where
  signed : sign = if numeral.negative then ['-'] else []
  wholeForm : WholeDigits whole
  fractionForm : FractionForm fraction
  exponentForm : ExponentForm exponent
  digits : numeral.whole = digitValues whole
  noFraction : numeral.fraction = [] ↔ fraction = []
  noExponent : numeral.exponent = none ↔ exponent = []

theorem written_of_scanUnsigned {negative : Bool} {chars rest : List Char} {numeral : Numeral}
    (scanned : scanUnsigned negative chars = .ok (numeral, rest)) :
    ∃ whole fraction exponent, chars = whole ++ fraction ++ exponent ++ rest ∧
      numeral.Written (if negative then ['-'] else []) whole fraction exponent := by
  obtain ⟨⟨found, afterWhole⟩, first, scanned⟩ := ok_of_bind scanned
  obtain ⟨⟨fractions, afterFraction⟩, second, scanned⟩ := ok_of_bind scanned
  obtain ⟨⟨exponents, last⟩, third, scanned⟩ := ok_of_bind scanned
  obtain ⟨rfl, rfl⟩ := Prod.mk.inj (Except.ok.inj scanned)
  obtain ⟨whole, rfl, wholeForm, rfl⟩ := wholeText_of_scanWhole first
  obtain ⟨fraction, rfl, fractionForm, noFraction⟩ := fractionForm_of_scanFraction second
  obtain ⟨exponent, rfl, exponentForm, noExponent⟩ := exponentForm_of_scanExponent third
  exact ⟨whole, fraction, exponent, by simp only [List.append_assoc], rfl, wholeForm,
    fractionForm, exponentForm, rfl, noFraction, noExponent⟩

theorem written_of_scan {chars rest : List Char} {numeral : Numeral}
    (scanned : scan chars = .ok (numeral, rest)) :
    ∃ sign whole fraction exponent, chars = sign ++ whole ++ fraction ++ exponent ++ rest ∧
      numeral.Written sign whole fraction exponent := by
  unfold scan at scanned
  split at scanned
  · obtain ⟨whole, fraction, exponent, rfl, written⟩ := written_of_scanUnsigned scanned
    exact ⟨['-'], whole, fraction, exponent, rfl, written⟩
  · obtain ⟨whole, fraction, exponent, rfl, written⟩ := written_of_scanUnsigned scanned
    exact ⟨[], whole, fraction, exponent, rfl, written⟩

theorem Written.numeralForm {numeral : Numeral} {sign whole fraction exponent : List Char}
    (written : numeral.Written sign whole fraction exponent) :
    NumeralForm (sign ++ whole ++ fraction ++ exponent) := by
  refine .parts ?_ written.wholeForm written.fractionForm written.exponentForm
  rw [written.signed]
  cases numeral.negative <;> simp

/-- With nothing left over, all digits are in the number, and it is within the limit. -/
theorem ofDigitChars_of_appendWhile {limit : Nat} (digits : List Char) {number found : Nat}
    (within : number ≤ limit)
    (appended : appendWhile limit number (digitValues digits) = (found, [])) :
    found = Nat.ofDigitChars 10 digits number ∧ found ≤ limit := by
  induction digits generalizing number with
  | nil =>
      obtain ⟨rfl, -⟩ := Prod.mk.inj appended
      exact ⟨rfl, within⟩
  | cons c digits ih =>
      simp only [digitValues, List.map_cons, appendWhile] at appended
      split at appended
      · next longer =>
          obtain ⟨same, bound⟩ := ih longer appended
          rw [Nat.ofDigitChars_cons, Nat.mul_comm 10]
          exact ⟨same, bound⟩
      · cases appended

theorem toFloat_eq_float {numeral : Numeral} {number : Number}
    (read : numeral.toFloat = .ok number) : ∃ value, number = .float value := by
  simp only [toFloat] at read
  split at read
  · split at read
    · exact ⟨_, (Except.ok.inj read).symm⟩
    · cases read
  · split at read
    · split at read
      · exact ⟨_, (Except.ok.inj read).symm⟩
      · cases read
    · split at read
      · cases read
      · exact ⟨_, (Except.ok.inj read).symm⟩

theorem toNumber_eq_integer {numeral : Numeral} {value : Int}
    {sign whole fraction exponent : List Char}
    (written : numeral.Written sign whole fraction exponent)
    (read : numeral.toNumber = .ok (.integer value)) :
    WordForm (sign ++ whole ++ fraction ++ exponent) (.integer value) := by
  unfold toNumber at read
  split at read
  · next noFraction noExponent appended =>
      rw [written.digits] at appended
      obtain ⟨rfl, fits⟩ := ofDigitChars_of_appendWhile whole (Nat.zero_le _) appended
      rw [written.noFraction.1 noFraction, written.noExponent.1 noExponent, written.signed,
        List.append_nil, List.append_nil]
      split at read
      · next natural =>
          obtain rfl := Number.integer.inj (Except.ok.inj read)
          rw [natural]
          exact .natural written.wholeForm fits
      split at read
      · next negative inRange =>
          obtain rfl := Number.integer.inj (Except.ok.inj read)
          rw [Bool.not_eq_false] at negative
          rw [negative]
          exact .negative written.wholeForm inRange.1 inRange.2
      · cases read
  · obtain ⟨float, same⟩ := toFloat_eq_float read
    cases same

theorem not_wordForm_of_mem {token : List Char} {number : Number} {c : Char}
    (member : c ∈ token) (sign : c ≠ '-') (digit : c.isDigit = false) :
    ¬ WordForm token number := by
  intro word
  cases word with
  | natural whole =>
      rw [whole.areDigits c member] at digit
      cases digit
  | negative whole =>
      rcases List.mem_cons.1 member with same | inside
      · exact sign same
      · rw [whole.areDigits c inside] at digit
        cases digit

theorem Written.integerLiteral {numeral : Numeral} {number : Number}
    {sign whole fraction exponent : List Char}
    (written : numeral.Written sign whole fraction exponent)
    (word : WordForm (sign ++ whole ++ fraction ++ exponent) number) :
    numeral = ⟨numeral.negative, digitValues whole, [], none⟩ ∧
      WordForm (sign ++ whole) number := by
  have plain {c : Char} (member : c ∈ sign ++ whole ++ fraction ++ exponent)
      (sign : c ≠ '-') (digit : c.isDigit = false) : False :=
    not_wordForm_of_mem member sign digit word
  have noFraction : fraction = [] := by
    cases written.fractionForm with
    | none => rfl
    | digits => exact (plain (c := '.') (by simp) (by decide) (by decide)).elim
  have noExponent : exponent = [] := by
    cases written.exponentForm with
    | none => rfl
    | @digits mark _ _ isMark =>
        have known : mark = 'e' ∨ mark = 'E' := by simpa using isMark
        refine (plain (c := mark) (by simp) ?_ ?_).elim
        · rcases known with rfl | rfl <;> decide
        · rcases known with rfl | rfl <;> decide
  have parts := written.digits
  have fractions := written.noFraction.2 noFraction
  have exponents := written.noExponent.2 noExponent
  subst noFraction noExponent
  rw [List.append_nil, List.append_nil] at word
  cases numeral
  subst parts fractions exponents
  exact ⟨rfl, word⟩

theorem toNumber_of_wordForm {numeral : Numeral} {number : Number}
    {sign whole fraction exponent : List Char}
    (written : numeral.Written sign whole fraction exponent)
    (word : WordForm (sign ++ whole ++ fraction ++ exponent) number) :
    numeral.toNumber = .ok number := by
  have noSign {digits : List Char} (whole : WholeDigits digits) : '-' ∉ digits :=
    fun member => absurd (whole.areDigits '-' member) (by decide)
  have signed := written.signed
  obtain ⟨parts, literal⟩ := written.integerLiteral word
  rw [parts]
  cases negative : numeral.negative with
  | false =>
      rw [negative, if_neg (by decide)] at signed
      subst signed
      rw [List.nil_append] at literal
      cases literal with
      | natural _ fits => exact toNumber_natural fits
      | negative => exact absurd List.mem_cons_self (noSign written.wholeForm)
  | true =>
      rw [negative, if_pos rfl] at signed
      subst signed
      generalize same : ['-'] ++ whole = token at literal
      cases literal with
      | natural digits => exact absurd (same ▸ List.mem_cons_self) (noSign digits)
      | negative _ positive fits =>
          obtain rfl := (List.cons.inj same).2
          exact toNumber_negative positive fits

end Numeral

/-- What is read as a number is one of the grammar, and denotes what is read. -/
theorem numberText_of_scanNumber {chars rest : List Char} {number : Number}
    (scanned : scanNumber chars = .ok (number, rest)) : NumberText chars number rest := by
  obtain ⟨⟨numeral, after⟩, first, scanned⟩ := ok_of_bind scanned
  obtain ⟨sign, whole, fraction, exponent, split, written⟩ := Numeral.written_of_scan first
  simp only at scanned
  split at scanned
  · next found read =>
      obtain ⟨rfl, rfl⟩ := Prod.mk.inj (Except.ok.inj scanned)
      refine ⟨_, split, written.numeralForm, ?_⟩
      cases found with
      | integer value => exact .inl (Numeral.toNumber_eq_integer written read)
      | float value =>
          refine .inr ⟨?_, value, rfl⟩
          intro other word
          obtain rfl := Except.ok.inj (read.symm.trans (Numeral.toNumber_of_wordForm written word))
          generalize sign ++ whole ++ fraction ++ exponent = token at word
          cases word
  · cases scanned

namespace Numeral

variable {chars rest left : List Char}

theorem digits_behind (chars : List Char) (ends : Ends rest) :
    digits (chars ++ rest) = ((digits chars).1, (digits chars).2 ++ rest) := by
  have none : digits ([] ++ rest) = ([], rest) := digits_append (by simp) ends.noDigit
  induction chars with
  | nil => exact none
  | cons c chars ih =>
      simp only [digits, Prod.mk.injEq] at ih
      cases isDigit : c.isDigit
      · simp [digits, isDigit]
      · simp only [digits, List.cons_append, List.takeWhile_cons, List.dropWhile_cons, isDigit,
          if_true, List.map_cons, ih]

theorem scanWhole_behind {found : List Nat} (scanned : scanWhole chars = .ok (found, left))
    (ends : Ends rest) : scanWhole (chars ++ rest) = .ok (found, left ++ rest) := by
  unfold scanWhole at scanned
  split at scanned
  · cases scanned
  · next tail =>
      split at scanned
      · cases scanned
      · next alone =>
          obtain ⟨rfl, rfl⟩ := Prod.mk.inj (Except.ok.inj scanned)
          have none : ((tail ++ rest).head?.map Char.isDigit).getD false = false := by
            cases tail with
            | nil =>
                cases rest with
                | nil => rfl
                | cons c rest => exact ends.noDigit c rfl
            | cons c tail => simpa using alone
          rw [List.cons_append, scanWhole, none]
          rfl
  · next c tail notZero =>
      split at scanned
      · next isDigit =>
          obtain same := Except.ok.inj scanned
          rw [List.cons_append, scanWhole, if_pos isDigit, ← List.cons_append,
            digits_behind _ ends, same]
          simpa using notZero
      · cases scanned

theorem scanDigits_behind {found : List Nat} (scanned : scanDigits chars = .ok (found, left))
    (ends : Ends rest) : scanDigits (chars ++ rest) = .ok (found, left ++ rest) := by
  obtain ⟨-, -, -, nonempty⟩ := areDigits_of_scanDigits scanned
  unfold scanDigits at scanned ⊢
  rw [digits_behind chars ends]
  split at scanned
  · cases scanned
  · obtain same := Except.ok.inj scanned
    rw [same]
    split
    · next none => exact absurd (Prod.mk.inj none).1 nonempty
    · rfl

theorem scanFraction_behind {found : List Nat} (scanned : scanFraction chars = .ok (found, left))
    (ends : Ends rest) : scanFraction (chars ++ rest) = .ok (found, left ++ rest) := by
  unfold scanFraction at scanned
  split at scanned
  · exact scanDigits_behind scanned ends
  · next noPoint =>
      obtain ⟨rfl, rfl⟩ := Prod.mk.inj (Except.ok.inj scanned)
      cases chars with
      | nil => exact ends.scanFraction
      | cons c chars =>
          unfold scanFraction
          split
          · next point => exact absurd (congrArg (· :: chars) (List.cons.inj point).1) (noPoint _)
          · rfl

theorem exponentSign_behind (nonempty : chars ≠ []) :
    exponentSign (chars ++ rest) = ((exponentSign chars).1, (exponentSign chars).2 ++ rest) := by
  cases chars with
  | nil => exact absurd rfl nonempty
  | cons c chars =>
      rw [List.cons_append]
      unfold exponentSign
      split <;> simp_all

theorem scanExponent_behind {found : Option Exponent}
    (scanned : scanExponent chars = .ok (found, left)) (ends : Ends rest) :
    scanExponent (chars ++ rest) = .ok (found, left ++ rest) := by
  cases chars with
  | nil =>
      obtain ⟨rfl, rfl⟩ := Prod.mk.inj (Except.ok.inj scanned)
      exact ends.scanExponent
  | cons c chars =>
      rw [List.cons_append, scanExponent]
      rw [scanExponent] at scanned
      split at scanned
      · next isMark =>
          have nonempty : chars ≠ [] := by
            rintro rfl
            cases scanned
          rw [if_pos isMark, exponentSign_behind nonempty]
          generalize exponentSign chars = signs at scanned
          obtain ⟨negative, unsigned⟩ := signs
          obtain ⟨⟨digits, last⟩, read, scanned⟩ := ok_of_bind scanned
          obtain ⟨rfl, rfl⟩ := Prod.mk.inj (Except.ok.inj scanned)
          simp only [scanDigits_behind read ends]
          rfl
      · next noMark =>
          obtain ⟨rfl, rfl⟩ := Prod.mk.inj (Except.ok.inj scanned)
          rw [if_neg noMark]
          rfl

theorem scanUnsigned_behind {negative : Bool} {numeral : Numeral}
    (scanned : scanUnsigned negative chars = .ok (numeral, left)) (ends : Ends rest) :
    scanUnsigned negative (chars ++ rest) = .ok (numeral, left ++ rest) := by
  obtain ⟨⟨whole, afterWhole⟩, first, scanned⟩ := ok_of_bind scanned
  obtain ⟨⟨fraction, afterFraction⟩, second, scanned⟩ := ok_of_bind scanned
  obtain ⟨⟨exponent, last⟩, third, scanned⟩ := ok_of_bind scanned
  obtain ⟨rfl, rfl⟩ := Prod.mk.inj (Except.ok.inj scanned)
  simp only [scanUnsigned, scanWhole_behind first ends, scanFraction_behind second ends,
    scanExponent_behind third ends, bind, Except.bind]
  rfl

theorem scan_behind {numeral : Numeral} (scanned : scan chars = .ok (numeral, left))
    (ends : Ends rest) : scan (chars ++ rest) = .ok (numeral, left ++ rest) := by
  unfold scan at scanned
  split at scanned
  · exact scanUnsigned_behind scanned ends
  · next noMinus =>
      have behind := scanUnsigned_behind scanned ends
      cases chars with
      | nil => cases scanned
      | cons c chars =>
          unfold scan
          split
          · next minus => exact absurd (congrArg (· :: chars) (List.cons.inj minus).1) (noMinus _)
          · exact behind

end Numeral

/-- A number that is read alone is read the same with a text behind that does not belong to it. -/
theorem scanNumber_behind {chars rest left : List Char} {number : Number}
    (scanned : scanNumber chars = .ok (number, left)) (ends : Ends rest) :
    scanNumber (chars ++ rest) = .ok (number, left ++ rest) := by
  obtain ⟨⟨numeral, after⟩, first, scanned⟩ := ok_of_bind scanned
  simp only [scanNumber, Numeral.scan_behind first ends, bind, Except.bind]
  simp only at scanned
  split at scanned
  · next found read =>
      obtain ⟨rfl, rfl⟩ := Prod.mk.inj (Except.ok.inj scanned)
      rfl
  · cases scanned

/-- All numbers, each as it is read when it stands alone. -/
def NumeralText : Grammar Number := fun chars number rest =>
  ∃ token, chars = token ++ rest ∧ scanNumber token = .ok (number, [])

/-- The scanner takes the numbers of the grammar, where they end. -/
structure Readable (number : Grammar Number) : Prop where
  start {chars rest : List Char} {value : Number} : number chars value rest →
    ∃ c tail, chars = c :: tail ∧ (c = '-' ∨ c.isDigit = true)
  read {chars rest : List Char} {value : Number} : number chars value rest → Ends rest →
    scanNumber chars = .ok (value, rest)

theorem NumeralForm.start {token : List Char} (form : NumeralForm token) :
    ∃ c tail, token = c :: tail ∧ (c = '-' ∨ c.isDigit = true) := by
  obtain ⟨known, whole, -, -⟩ := form
  simp only [List.mem_cons, List.not_mem_nil, or_false] at known
  rcases known with rfl | rfl
  · obtain ⟨c, tail, rfl⟩ := List.exists_cons_of_ne_nil whole.nonempty
    exact ⟨c, _, rfl, .inr (whole.areDigits c List.mem_cons_self)⟩
  · exact ⟨'-', _, rfl, .inl rfl⟩

theorem readable_numeralText : Readable NumeralText where
  start := by
    rintro _ rest _ ⟨token, rfl, scanned⟩
    obtain ⟨whole, same, form, -⟩ := numberText_of_scanNumber scanned
    obtain rfl : token = whole := by rw [same, List.append_nil]
    obtain ⟨c, tail, rfl, first⟩ := form.start
    exact ⟨c, tail ++ rest, rfl, first⟩
  read := by
    rintro _ rest _ ⟨token, rfl, scanned⟩ ends
    exact scanNumber_behind scanned ends

theorem WordForm.scanNumber {token : List Char} {number : Number} (word : WordForm token number) :
    scanNumber token = .ok (number, []) := by
  rw [← List.append_nil token]
  cases word with
  | natural whole fits => exact scanNumber_natural whole .nil fits
  | negative whole positive fits => exact scanNumber_negative whole .nil positive fits

theorem WordText.numeral {chars rest : List Char} {number : Number}
    (text : WordText chars number rest) : NumeralText chars number rest := by
  obtain ⟨token, same, word⟩ := text
  exact ⟨token, same, word.scanNumber⟩

theorem readable_wordText : Readable WordText where
  start text := readable_numeralText.start text.numeral
  read text := readable_numeralText.read text.numeral

end PayloadExchange.Json
