import PayloadExchange.Json.Parser
import PayloadExchange.Proofs.Json.Grammar
import PayloadExchange.Proofs.Json.Quoting
import PayloadExchange.Proofs.Sequence

/-! # String literals against the grammar

White space is skipped, and string literals are taken, just as the grammar allows, and a literal
is read as the text that it denotes.
-/

namespace PayloadExchange.Json

theorem isSpace_iff {c : Char} : isSpace c = true ↔ c ∈ [' ', '\t', '\n', '\r'] := by
  simp [isSpace, or_assoc]

theorem spaces_skipSpace (chars : List Char) : Spaces chars (skipSpace chars) := by
  induction chars with
  | nil => exact .none
  | cons c chars ih =>
      unfold skipSpace
      rw [List.dropWhile_cons]
      split
      · next space => exact .more (isSpace_iff.1 space) ih
      · exact .none

theorem Spaces.skipSpace_eq {chars rest : List Char} (spaces : Spaces chars rest) :
    skipSpace chars = skipSpace rest := by
  induction spaces with
  | none => rfl
  | more space _ ih =>
      rw [skipSpace, List.dropWhile_cons_of_pos (isSpace_iff.2 space)]
      exact ih

namespace StringLiteral

instance (c : Char) (value : Nat) : Decidable (HexDigit c value) :=
  inferInstanceAs (Decidable (_ ∧ _))

theorem hexValue?_eq_some_iff {c : Char} {value : Nat} :
    hexValue? c = some value ↔ HexDigit c value := by
  constructor
  · intro found
    have table : ∀ code < 103, ∀ value ∈ hexValue? (Char.ofNat code),
        HexDigit (Char.ofNat code) value := by decide
    have small : c.toNat < 103 := by
      have upTo {last : Char} (inside : c ≤ last) (bound : last.toNat < 103) : c.toNat < 103 :=
        Nat.lt_of_le_of_lt (UInt32.le_iff_toNat_le.1 inside) bound
      unfold hexValue? at found
      split at found
      · next decimal => exact upTo decimal.2 (by decide)
      split at found
      · next lower => exact upTo lower.2 (by decide)
      split at found
      · next upper => exact upTo upper.2 (by decide)
      · cases found
    have digit := table c.toNat small value
    rw [Char.ofNat_toNat] at digit
    exact digit found
  · rintro ⟨small, rfl | rfl⟩
    · exact (show ∀ value < 16, hexValue? (Nat.digitChar value) = some value by decide) value small
    · exact (show ∀ value < 16, hexValue? (Nat.digitChar value).toUpper = some value by decide)
        value small

theorem scanUnit_eq_ok_iff {chars rest : List Char} {unit : Nat} :
    scanUnit chars = .ok (unit, rest) ↔ UnitText chars unit rest := by
  constructor
  · intro scanned
    unfold scanUnit at scanned
    split at scanned
    · next a b c d tail =>
        split at scanned
        · next found =>
            obtain ⟨rfl, rfl⟩ := Prod.mk.inj (Except.ok.inj scanned)
            simp only [unit?, Option.pure_def, Option.bind_eq_bind, Option.bind_eq_some_iff,
              Option.some.injEq] at found
            obtain ⟨_, first, _, second, _, third, _, fourth, rfl⟩ := found
            exact .digits (hexValue?_eq_some_iff.1 first) (hexValue?_eq_some_iff.1 second)
              (hexValue?_eq_some_iff.1 third) (hexValue?_eq_some_iff.1 fourth)
        · cases scanned
    · cases scanned
  · rintro ⟨first, second, third, fourth⟩
    simp only [scanUnit, unit?, hexValue?_eq_some_iff.2 first, hexValue?_eq_some_iff.2 second,
      hexValue?_eq_some_iff.2 third, hexValue?_eq_some_iff.2 fourth]
    rfl

theorem unit_lt {chars rest : List Char} {unit : Nat} (text : UnitText chars unit rest) :
    unit < 0x10000 := by
  obtain ⟨first, second, third, fourth⟩ := text
  have := first.1
  have := second.1
  have := third.1
  have := fourth.1
  omega

theorem toNat_ofNat {code : Nat} (valid : code.isValidChar) : (Char.ofNat code).toNat = code := by
  rw [Char.ofNat, dif_pos valid]
  rfl

theorem isTrailing_iff {unit : Nat} : isTrailing unit = true ↔ 0xdc00 ≤ unit ∧ unit ≤ 0xdfff := by
  simp [isTrailing]

theorem isLeading_iff {unit : Nat} : isLeading unit = true ↔ 0xd800 ≤ unit ∧ unit ≤ 0xdbff := by
  simp [isLeading]

theorem scanMark_eq_ok_iff {expected : Char} {chars rest : List Char} :
    scanMark expected chars = .ok rest ↔ chars = expected :: rest := by
  constructor
  · exact eq_cons_of_scanMark
  · rintro rfl
    simp [scanMark]

theorem named?_eq_some_iff {mark c : Char} :
    named? mark = some c ↔ (mark, c) ∈ letterEscapes := by
  unfold named? letterEscapes
  split <;> simp_all [eq_comm]

theorem charText_of_scanNumeric {chars rest : List Char} {c : Char}
    (scanned : scanNumeric chars = .ok (c, rest)) : CharText ('\\' :: 'u' :: chars) c rest := by
  obtain ⟨⟨unit, afterUnit⟩, first, scanned⟩ := ok_of_bind scanned
  have text := scanUnit_eq_ok_iff.1 first
  have small := unit_lt text
  simp only at scanned
  split at scanned
  · cases scanned
  next notTrailing =>
  rw [isTrailing_iff] at notTrailing
  split at scanned
  · next leading =>
      obtain ⟨afterMark, mark, scanned⟩ := ok_of_bind scanned
      obtain ⟨afterLetter, letter, scanned⟩ := ok_of_bind scanned
      obtain ⟨⟨second, last⟩, other, scanned⟩ := ok_of_bind scanned
      split at scanned
      · next trailing =>
          obtain ⟨rfl, rfl⟩ := Prod.mk.inj (Except.ok.inj scanned)
          rw [scanMark_eq_ok_iff] at mark letter
          subst mark letter
          rw [isLeading_iff] at leading
          rw [isTrailing_iff] at trailing
          have behind := scanUnit_eq_ok_iff.1 other
          refine .pair text behind leading.1 leading.2 trailing.1 trailing.2 ?_
          exact toNat_ofNat (.inr (by omega))
      · cases scanned
  · next notLeading =>
      obtain ⟨rfl, rfl⟩ := Prod.mk.inj (Except.ok.inj scanned)
      rw [isLeading_iff] at notLeading
      refine .unit text (toNat_ofNat ?_)
      simp only [Nat.isValidChar]
      omega

theorem charText_of_scanEscape {chars rest : List Char} {c : Char}
    (scanned : scanEscape chars = .ok (c, rest)) : CharText ('\\' :: chars) c rest := by
  unfold scanEscape at scanned
  split at scanned
  · cases scanned
  · next mark tail =>
      split at scanned
      · next isUnit =>
          subst isUnit
          exact charText_of_scanNumeric scanned
      · split at scanned
        · next named found =>
            obtain ⟨rfl, rfl⟩ := Prod.mk.inj (Except.ok.inj scanned)
            exact .letter (named?_eq_some_iff.1 found)
        · cases scanned

/-- What is read up to the closing quote is characters of the grammar. -/
theorem charsText_of_scan {done chars rest : List Char} {text : String}
    (scanned : scan done chars = .ok (text, rest)) :
    ∃ cs, text.toList = done.reverse ++ cs ∧ CharsText chars cs ('"' :: rest) := by
  fun_induction scan done chars with
  | case1 => cases scanned
  | case2 done tail =>
      obtain ⟨rfl, rfl⟩ := Prod.mk.inj (Except.ok.inj scanned)
      exact ⟨[], by simp, .nil⟩
  | case3 done tail escaped after found _ _ ih =>
      obtain ⟨cs, whole, text⟩ := ih scanned
      exact ⟨escaped :: cs, by simpa using whole, .cons (charText_of_scanEscape found) text⟩
  | case4 => cases scanned
  | case5 => cases scanned
  | case6 done c tail quote backslash control ih =>
      obtain ⟨cs, whole, text⟩ := ih scanned
      exact ⟨c :: cs, by simpa using whole, .cons (.plain quote backslash (by omega)) text⟩

theorem stringText_of_scan {chars rest : List Char} {text : String}
    (scanned : scan [] chars = .ok (text, rest)) : StringText ('"' :: chars) text rest := by
  obtain ⟨cs, rfl, chars⟩ := charsText_of_scan scanned
  exact .quoted chars

theorem not_surrogate (c : Char) : ¬ (0xd800 ≤ c.toNat ∧ c.toNat ≤ 0xdfff) := by
  rcases c.valid with low | high
  · exact fun inside => absurd inside.1 (by simpa using low)
  · exact fun inside => absurd inside.2 (by simpa using high.1)

/-- However a character is written, it is read as that character. -/
theorem scan_charText {chars rest : List Char} {c : Char} (text : CharText chars c rest)
    (done : List Char) : scan done chars = scan (c :: done) rest := by
  have escaped {tail : List Char} (read : scanEscape tail = .ok (c, rest)) :
      scan done ('\\' :: tail) = scan (c :: done) rest := by
    rw [scan_cons, if_neg (by decide), if_pos rfl, read]
  cases text with
  | plain quote backslash visible =>
      rw [scan_cons, if_neg quote, if_neg backslash, if_neg (by omega)]
  | @letter mark _ _ known =>
      have named := named?_eq_some_iff.2 known
      have notUnit : mark ≠ 'u' := by
        rintro rfl
        cases named
      apply escaped
      rw [scanEscape, if_neg notUnit, named]
  | unit text same =>
      subst same
      have plain := not_surrogate c
      have notTrailing : isTrailing c.toNat = false := by
        rw [Bool.eq_false_iff, ne_eq, isTrailing_iff]
        omega
      have notLeading : isLeading c.toNat = false := by
        rw [Bool.eq_false_iff, ne_eq, isLeading_iff]
        omega
      apply escaped
      simp [scanEscape, scanNumeric, scanUnit_eq_ok_iff.2 text, notTrailing, notLeading, bind,
        Except.bind]
  | @pair _ _ _ leading trailing _ first second lowLeading highLeading lowTrailing highTrailing
      same =>
      have notTrailing : isTrailing leading = false := by
        rw [Bool.eq_false_iff, ne_eq, isTrailing_iff]
        omega
      have joins : joined leading trailing = c := by
        rw [joined, ← same, Char.ofNat_toNat]
      apply escaped
      simp [scanEscape, scanNumeric, scanUnit_eq_ok_iff.2 first, scanUnit_eq_ok_iff.2 second,
        scanMark_eq_ok_iff.2, notTrailing, isLeading_iff.2 ⟨lowLeading, highLeading⟩,
        isTrailing_iff.2 ⟨lowTrailing, highTrailing⟩, joins, bind, Except.bind]

theorem scan_charsText {chars rest cs : List Char} (text : CharsText chars cs ('"' :: rest))
    (done : List Char) : scan done chars = .ok (String.ofList (done.reverse ++ cs), rest) := by
  generalize closing : '"' :: rest = behind at text
  induction text generalizing done with
  | nil =>
      subst closing
      rw [scan_cons, if_pos rfl, List.append_nil]
  | cons first _ ih =>
      rw [scan_charText first, ih _ closing, List.reverse_cons, List.append_assoc,
        List.singleton_append]

theorem scan_stringText {chars rest : List Char} {text : String}
    (literal : StringText chars text rest) :
    ∃ inside, chars = '"' :: inside ∧ scan [] inside = .ok (text, rest) := by
  cases literal with
  | quoted chars =>
      refine ⟨_, rfl, ?_⟩
      rw [scan_charsText chars, List.reverse_nil, List.nil_append, String.ofList_toList]

end StringLiteral

end PayloadExchange.Json
