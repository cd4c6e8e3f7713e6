import PayloadExchange.Json.Parser
import PayloadExchange.Proofs.Json.Integer
import PayloadExchange.Proofs.Json.Quoting

/-! # The characters of a written value

What a value is written with is known without its contents: signs and the letters of names, string
literals, and the characters of numbers. A property that each of these passes on from the text
behind it is passed on by the whole value. Two are shown so: that no control character occurs, and
that white space occurs in string literals only.
-/

namespace PayloadExchange.Json

/-- All of these characters may occur in a number. -/
def Numeric (chars : List Char) : Prop := ∀ c ∈ chars, extendsNumber c = true

namespace Numeric

variable {chars rest : List Char}

theorem append (first : Numeric chars) (second : Numeric rest) : Numeric (chars ++ rest) :=
  List.forall_mem_append.2 ⟨first, second⟩

theorem cons {c : Char} (first : extendsNumber c = true) (second : Numeric rest) :
    Numeric (c :: rest) :=
  List.forall_mem_cons.2 ⟨first, second⟩

theorem take (whole : Numeric chars) (count : Nat) : Numeric (chars.take count) :=
  fun c member => whole c (List.mem_of_mem_take member)

theorem drop (whole : Numeric chars) (count : Nat) : Numeric (chars.drop count) :=
  fun c member => whole c (List.mem_of_mem_drop member)

theorem decimalDigits (n : Nat) : Numeric (Json.decimalDigits n) := by
  intro c member
  have digit := (wholeDigits_decimalDigits n).areDigits c member
  simp [extendsNumber, digit]

theorem zeros (count : Nat) : Numeric (List.replicate count '0') := by
  intro c member
  rw [List.eq_of_mem_replicate member]
  decide

theorem layout (decimal : Decimal) : Numeric (Json.layout decimal) := by
  have digits := Numeric.decimalDigits decimal.digits
  have sign (isNegative : Prop) [Decidable isNegative] :
      Numeric (if isNegative then ['-'] else ['+']) := by
    split <;> simp [Numeric, extendsNumber]
  have tail : Numeric (if ((Json.decimalDigits decimal.digits).drop 1).isEmpty then []
      else '.' :: (Json.decimalDigits decimal.digits).drop 1) := by
    split
    · exact List.forall_mem_nil _
    · exact cons (by decide) (digits.drop 1)
  unfold Json.layout
  dsimp only
  split
  · exact ((((digits.take 1).append tail).append (by simp [Numeric, extendsNumber])).append
      (sign _)).append (.decimalDigits _)
  split
  · exact (digits.append (zeros _)).append (by simp [Numeric, extendsNumber])
  split
  · exact (digits.take _).append (cons (by decide) (digits.drop _))
  · exact ((cons (by decide) (cons (by decide) (List.forall_mem_nil _))).append (zeros _)).append
      digits

theorem printInteger (value : Int) : Numeric (Json.printInteger value) := by
  unfold Json.printInteger
  refine append ?_ (.decimalDigits _)
  split <;> simp [Numeric, extendsNumber]

theorem printFloat (value : Float) : Numeric (Json.printFloat value) := by
  unfold Json.printFloat
  refine append ?_ ?_
  · split <;> simp [Numeric, extendsNumber]
  · split
    · simp [Numeric, extendsNumber]
    · exact layout _

theorem print (number : Number) : Numeric number.print := by
  cases number with
  | integer value => exact printInteger value
  | float value => exact printFloat value

end Numeric

def signs : List Char :=
  ['[', ']', '\x7b', '\x7d', ',', ':', 'n', 'u', 'l', 't', 'r', 'e', 'f', 'a', 's']

/-- The property passes from a text to the text with one more sign, literal or number in front. -/
structure Prepends (holds : List Char → Prop) : Prop where
  sign {c : Char} {rest : List Char} : c ∈ signs → holds rest → holds (c :: rest)
  literal (text : String) {rest : List Char} :
    holds rest → holds (StringLiteral.print text ++ rest)
  number (number : Number) {rest : List Char} : holds rest → holds (number.print ++ rest)

namespace Prepends

variable {holds : List Char → Prop} {rest : List Char}

theorem name (prepends : Prepends holds) {letters : List Char}
    (known : letters.all (· ∈ signs) = true) (behind : holds rest) : holds (letters ++ rest) := by
  induction letters with
  | nil => exact behind
  | cons c letters ih =>
      rw [List.all_cons, Bool.and_eq_true, decide_eq_true_eq] at known
      exact prepends.sign known.1 (ih known.2)

theorem printElements (prepends : Prepends holds) {elements : List Value}
    (each : ∀ value ∈ elements, ∀ {rest}, holds rest → holds (value.print ++ rest))
    (behind : holds rest) : holds (Value.printElements elements ++ rest) := by
  induction elements with
  | nil => exact prepends.sign (by decide) behind
  | cons first others ih =>
      rw [Value.printElements, List.cons_append, List.cons_append, List.append_assoc]
      refine prepends.sign (by decide) (each first List.mem_cons_self (ih ?_))
      exact fun value member => each value (List.mem_cons_of_mem first member)

theorem printMembers (prepends : Prepends holds) {members : List (String × Value)}
    (each : ∀ member ∈ members, ∀ {rest}, holds rest → holds (member.2.print ++ rest))
    (behind : holds rest) : holds (Value.printMembers members ++ rest) := by
  induction members with
  | nil => exact prepends.sign (by decide) behind
  | cons first others ih =>
      simp only [Value.printMembers, List.cons_append, List.append_assoc]
      refine prepends.sign (by decide) (prepends.literal first.1 (prepends.sign (by decide)
        (each first List.mem_cons_self (ih ?_))))
      exact fun member listed => each member (List.mem_cons_of_mem first listed)

theorem print (prepends : Prepends holds) (value : Value) (behind : holds rest) :
    holds (value.print ++ rest) := by
  induction value generalizing rest with
  | null => exact prepends.name (by decide) behind
  | bool value => cases value <;> exact prepends.name (by decide) behind
  | number value => exact prepends.number value behind
  | string text => exact prepends.literal text behind
  | array elements each =>
      cases elements with
      | nil => exact prepends.name (by decide) behind
      | cons first others =>
          rw [Value.print, List.cons_append, List.cons_append, List.append_assoc]
          refine prepends.sign (by decide) (each first List.mem_cons_self ?_)
          exact prepends.printElements
            (fun value member _ => each value (List.mem_cons_of_mem first member)) behind
  | object members each =>
      cases members with
      | nil => exact prepends.name (by decide) behind
      | cons first others =>
          simp only [Value.print, List.cons_append, List.append_assoc]
          refine prepends.sign (by decide) (prepends.literal first.1 (prepends.sign (by decide)
            (each first List.mem_cons_self ?_)))
          exact prepends.printMembers
            (fun member listed _ => each member (List.mem_cons_of_mem first listed)) behind

end Prepends

theorem StringLiteral.visible_escape (c : Char) : ∀ d ∈ escape c, 0x20 ≤ d.toNat := by
  unfold escape
  iterate 7
    split
    · simp
  split
  · next control =>
      have digit : ∀ n < 16, 0x20 ≤ (hexDigit n).toNat := by decide
      have high := digit (c.toNat / 16) (by omega)
      have low := digit (c.toNat % 16) (by omega)
      simpa using ⟨high, low⟩
  · next plain => simpa using plain

theorem StringLiteral.visible_print (text : String) :
    ∀ c ∈ print text, 0x20 ≤ c.toNat := by
  refine List.forall_mem_append.2 ⟨List.forall_mem_cons.2 ⟨by decide, ?_⟩, by simp⟩
  intro c member
  obtain ⟨d, -, escaped⟩ := List.mem_flatMap.1 member
  exact visible_escape d c escaped

theorem visible_of_extendsNumber {c : Char} (counts : extendsNumber c = true) :
    0x20 ≤ c.toNat := by
  have control : ∀ code < 0x20, extendsNumber (Char.ofNat code) = false := by decide
  apply Nat.le_of_not_lt
  intro small
  have plain := control c.toNat small
  rw [Char.ofNat_toNat, counts] at plain
  cases plain

theorem prepends_visible : Prepends fun chars => ∀ c ∈ chars, 0x20 ≤ c.toNat where
  sign known behind :=
    have visible : ∀ c ∈ signs, 0x20 ≤ c.toNat := by simp [signs]
    List.forall_mem_cons.2 ⟨visible _ known, behind⟩
  literal text _ behind := List.forall_mem_append.2 ⟨StringLiteral.visible_print text, behind⟩
  number number _ behind := List.forall_mem_append.2
    ⟨fun c member => visible_of_extendsNumber (Numeric.print number c member), behind⟩

theorem Value.visible_print (value : Value) : ∀ c ∈ value.print, 0x20 ≤ c.toNat := by
  have whole := prepends_visible.print value (List.forall_mem_nil _)
  rwa [List.append_nil] at whole

/-- The characters that stand outside string literals. -/
def outsideLiterals (chars : List Char) : List Char :=
  match chars with
  | [] => []
  | c :: rest =>
      if c = '"' then outsideLiterals (StringLiteral.afterQuote rest)
      else c :: outsideLiterals rest
termination_by chars.length
decreasing_by
  · exact Nat.lt_succ_of_le (StringLiteral.afterQuote_length rest)
  · exact Nat.lt_succ_self rest.length

/-- White space occurs in string literals only. -/
def Tight (chars : List Char) : Prop := ∀ c ∈ outsideLiterals chars, isSpace c = false

theorem Tight.nil : Tight [] := by
  simp [Tight, outsideLiterals]

theorem Tight.cons {c : Char} {rest : List Char} (quote : c ≠ '"') (plain : isSpace c = false)
    (behind : Tight rest) : Tight (c :: rest) := by
  rw [Tight, outsideLiterals, if_neg quote]
  exact List.forall_mem_cons.2 ⟨plain, behind⟩

theorem Tight.numeric {chars rest : List Char} (numeric : Numeric chars) (behind : Tight rest) :
    Tight (chars ++ rest) := by
  induction chars with
  | nil => exact behind
  | cons c chars ih =>
      obtain ⟨first, others⟩ := List.forall_mem_cons.1 numeric
      have other {d : Char} (plain : extendsNumber d = false) : c ≠ d := by
        rintro rfl
        rw [first] at plain
        cases plain
      refine .cons (other (by decide)) ?_ (ih others)
      simp [isSpace, other (d := ' ') (by decide), other (d := '\t') (by decide),
        other (d := '\n') (by decide), other (d := '\r') (by decide)]

theorem prepends_tight : Prepends Tight where
  sign known behind :=
    have plain : ∀ c ∈ signs, c ≠ '"' ∧ isSpace c = false := by simp [signs, isSpace]
    .cons (plain _ known).1 (plain _ known).2 behind
  literal text rest behind := by
    have ended := StringLiteral.afterQuote_scan (StringLiteral.scan_print text rest)
    rw [StringLiteral.print, List.append_assoc, List.cons_append, Tight, outsideLiterals,
      if_pos rfl, List.singleton_append, ended]
    exact behind
  number number _ behind := .numeric (Numeric.print number) behind

theorem Value.tight_print (value : Value) : Tight value.print := by
  have whole := prepends_tight.print value .nil
  rwa [List.append_nil] at whole

end PayloadExchange.Json
