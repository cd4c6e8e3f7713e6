import PayloadExchange.Proofs.Json.Integer

/-! # The language of documents

Which texts are JSON documents, and of which values, said without a reader. A grammar relates a
text to something that it starts with and to what stands behind that. Two things are left open in
the grammar of values: which numerals there are, and what is kept of the members of an object.
-/

namespace PayloadExchange.Json

/-- A text, something that it starts with, and what stands behind that. -/
abbrev Grammar (α : Type) := List Char → α → List Char → Prop

/-- White space in front, or none. -/
inductive Spaces : List Char → List Char → Prop where
  | none {rest : List Char} : Spaces rest rest
  | more {c : Char} {chars rest : List Char} :
      c ∈ [' ', '\t', '\n', '\r'] → Spaces chars rest → Spaces (c :: chars) rest

def HexDigit (c : Char) (value : Nat) : Prop :=
  value < 16 ∧ (c = Nat.digitChar value ∨ c = (Nat.digitChar value).toUpper)

/-- Four hexadecimal digits and the number that they denote. -/
inductive UnitText : Grammar Nat where
  | digits {a b c d : Char} {p q r s : Nat} {rest : List Char} :
      HexDigit a p → HexDigit b q → HexDigit c r → HexDigit d s →
      UnitText (a :: b :: c :: d :: rest) (((p * 16 + q) * 16 + r) * 16 + s) rest

/-- The characters that have an escape of two characters, each behind its letter. -/
def letterEscapes : List (Char × Char) :=
  [('"', '"'), ('\\', '\\'), ('/', '/'), ('b', '\x08'), ('f', '\x0c'), ('n', '\n'), ('r', '\r'),
    ('t', '\t')]

/-- The ways to write one character of a string. No character has a surrogate for its number, so
    an escape of one unit is none of a surrogate; those come in pairs. -/
inductive CharText : Grammar Char where
  | plain {c : Char} {rest : List Char} :
      c ≠ '"' → c ≠ '\\' → 0x20 ≤ c.toNat → CharText (c :: rest) c rest
  | letter {mark c : Char} {rest : List Char} :
      (mark, c) ∈ letterEscapes → CharText ('\\' :: mark :: rest) c rest
  | unit {chars rest : List Char} {unit : Nat} {c : Char} :
      UnitText chars unit rest → c.toNat = unit → CharText ('\\' :: 'u' :: chars) c rest
  | pair {chars others rest : List Char} {leading trailing : Nat} {c : Char} :
      UnitText chars leading ('\\' :: 'u' :: others) → UnitText others trailing rest →
      0xd800 ≤ leading → leading ≤ 0xdbff → 0xdc00 ≤ trailing → trailing ≤ 0xdfff →
      c.toNat = 0x10000 + (leading - 0xd800) * 0x400 + (trailing - 0xdc00) →
      CharText ('\\' :: 'u' :: chars) c rest

inductive CharsText : Grammar (List Char) where
  | nil {rest : List Char} : CharsText rest [] rest
  | cons {chars others rest cs : List Char} {c : Char} :
      CharText chars c others → CharsText others cs rest → CharsText chars (c :: cs) rest

inductive StringText : Grammar String where
  | quoted {chars rest : List Char} {text : String} :
      CharsText chars text.toList ('"' :: rest) → StringText ('"' :: chars) text rest

def AreDigits (digits : List Char) : Prop := digits ≠ [] ∧ ∀ c ∈ digits, c.isDigit = true

inductive FractionForm : List Char → Prop where
  | none : FractionForm []
  | digits {digits : List Char} : AreDigits digits → FractionForm ('.' :: digits)

inductive ExponentForm : List Char → Prop where
  | none : ExponentForm []
  | digits {mark : Char} {sign digits : List Char} :
      mark ∈ ['e', 'E'] → sign ∈ [[], ['+'], ['-']] → AreDigits digits →
      ExponentForm (mark :: (sign ++ digits))

/-- The written form of any number. -/
inductive NumeralForm : List Char → Prop where
  | parts {sign whole fraction exponent : List Char} :
      sign ∈ [[], ['-']] → WholeDigits whole → FractionForm fraction → ExponentForm exponent →
      NumeralForm (sign ++ whole ++ fraction ++ exponent)

/-- The literal of an integer from -2^63 to 2^64 - 1, and the integer. There is none for the
    negative zero. -/
inductive WordForm : List Char → Number → Prop where
  | natural {digits : List Char} :
      WholeDigits digits → Nat.ofDigitChars 10 digits 0 ≤ 18446744073709551615 →
      WordForm digits (.integer (Nat.ofDigitChars 10 digits 0))
  | negative {digits : List Char} :
      WholeDigits digits → 0 < Nat.ofDigitChars 10 digits 0 →
      Nat.ofDigitChars 10 digits 0 ≤ 9223372036854775808 →
      WordForm ('-' :: digits) (.integer (-(Nat.ofDigitChars 10 digits 0 : Int)))

def WordText : Grammar Number := fun chars number rest =>
  ∃ token, chars = token ++ rest ∧ WordForm token number

/-- All numbers. What is no integer literal denotes a float, and which one is left open. -/
def NumberText : Grammar Number := fun chars number rest =>
  ∃ token, chars = token ++ rest ∧ NumeralForm token ∧
    (WordForm token number ∨
      (∀ other, ¬ WordForm token other) ∧ ∃ value, number = .float value)

section

variable {α : Type}

def Spaced (item : Grammar α) : Grammar α := fun chars value rest =>
  ∃ start behind, Spaces chars start ∧ item start value behind ∧ Spaces behind rest

inductive Separated (item : Grammar α) : Grammar (List α) where
  | single {chars rest : List Char} {value : α} :
      item chars value rest → Separated item chars [value] rest
  | more {chars others rest : List Char} {value : α} {values : List α} :
      item chars value (',' :: others) → Separated item others values rest →
      Separated item chars (value :: values) rest

inductive Bracketed (opening closing : Char) (item : Grammar α) : Grammar (List α) where
  | empty {chars rest : List Char} :
      Spaces chars (closing :: rest) → Bracketed opening closing item (opening :: chars) [] rest
  | items {chars rest : List Char} {values : List α} :
      Separated item chars values (closing :: rest) →
      Bracketed opening closing item (opening :: chars) values rest

/-! What is made of the items of one grammar may be the items of another. -/

variable {β : Type} {item : Grammar α} {other : Grammar β} {f : α → β} {chars rest : List Char}

theorem Spaced.tight {value : α} (text : item chars value rest) : Spaced item chars value rest :=
  ⟨chars, rest, .none, text, .none⟩

theorem Spaced.map (each : ∀ chars value rest, item chars value rest → other chars (f value) rest)
    {value : α} (text : Spaced item chars value rest) : Spaced other chars (f value) rest := by
  obtain ⟨start, behind, before, inside, after⟩ := text
  exact ⟨start, behind, before, each _ _ _ inside, after⟩

theorem Separated.map
    (each : ∀ chars value rest, item chars value rest → other chars (f value) rest)
    {values : List α} (text : Separated item chars values rest) :
    Separated other chars (values.map f) rest := by
  induction text with
  | single first => exact .single (each _ _ _ first)
  | more first _ ih => exact .more (each _ _ _ first) ih

theorem Bracketed.map {opening closing : Char}
    (each : ∀ chars value rest, item chars value rest → other chars (f value) rest)
    {values : List α} (text : Bracketed opening closing item chars values rest) :
    Bracketed opening closing other chars (values.map f) rest := by
  cases text with
  | empty spaces => exact .empty spaces
  | items separated => exact .items (separated.map each)

end

inductive MemberText (value : Grammar Value) : Grammar (String × Value) where
  | pair {chars literal afterKey afterColon rest : List Char} {key : String} {json : Value} :
      Spaces chars literal → StringText literal key afterKey →
      Spaces afterKey (':' :: afterColon) → Spaced value afterColon json rest →
      MemberText value chars (key, json) rest

theorem MemberText.map {value other : Grammar Value} {f : Value → Value} {chars rest : List Char}
    (each : ∀ chars json rest, value chars json rest → other chars (f json) rest)
    {member : String × Value} (text : MemberText value chars member rest) :
    MemberText other chars (member.map id f) rest := by
  obtain ⟨before, literal, afterKey, inside⟩ := text
  exact .pair before literal afterKey (inside.map each)

/-- What is kept of the members that are written. -/
abbrev Keeping := List (String × Value) → List (String × Value) → Prop

/-- The value of the last member that is written under a key. -/
def LastUnder (written : List (String × Value)) (key : String) (value : Value) : Prop :=
  ∃ before after, written = before ++ (key, value) :: after ∧ ∀ member ∈ after, member.1 ≠ key

/-- Of the members that are written, the last under each key is kept, in the order of the keys. -/
structure Collected (written kept : List (String × Value)) : Prop where
  ascending : kept.Pairwise fun a b => keyOrder a.1 b.1 = .lt
  last : ∀ key value, (key, value) ∈ kept ↔ LastUnder written key value

/-- The members that are written are kept as they are, and they are in the order of their keys. -/
def InOrder : Keeping := fun written kept =>
  written = kept ∧ kept.Pairwise fun a b => keyOrder a.1 b.1 = .lt

/-- Values that are neither lists nor objects. -/
inductive ScalarText (number : Grammar Number) : Grammar Value where
  | null {rest : List Char} : ScalarText number ('n' :: 'u' :: 'l' :: 'l' :: rest) .null rest
  | true {rest : List Char} :
      ScalarText number ('t' :: 'r' :: 'u' :: 'e' :: rest) (.bool Bool.true) rest
  | false {rest : List Char} :
      ScalarText number ('f' :: 'a' :: 'l' :: 's' :: 'e' :: rest) (.bool Bool.false) rest
  | number {chars rest : List Char} {value : Number} :
      number chars value rest → ScalarText number chars (.number value) rest
  | string {chars rest : List Char} {text : String} :
      StringText chars text rest → ScalarText number chars (.string text) rest

/-- Values with other values inside, which are given by a grammar of their own. -/
inductive NestedText (keeps : Keeping) (inside : Grammar Value) : Grammar Value where
  | array {chars rest : List Char} {elements : List Value} :
      Bracketed '[' ']' (Spaced inside) chars elements rest →
      NestedText keeps inside chars (.array elements) rest
  | object {chars rest : List Char} {written kept : List (String × Value)} :
      Bracketed '{' '}' (MemberText inside) chars written rest → keeps written kept →
      NestedText keeps inside chars (.object kept) rest

/-- Values with at most so many levels of lists and objects. -/
def ValueText (number : Grammar Number) (keeps : Keeping) : Nat → Grammar Value
  | 0 => ScalarText number
  | room + 1 => fun chars value rest =>
      ScalarText number chars value rest
        ∨ NestedText keeps (ValueText number keeps room) chars value rest

section

variable {number : Grammar Number} {keeps others : Keeping} {room : Nat} {chars rest : List Char}
  {value : Value}

theorem ValueText.scalar (text : ScalarText number chars value rest) :
    ValueText number keeps room chars value rest := by
  cases room with
  | zero => exact text
  | succ room => exact .inl text

theorem ValueText.nested
    (text : NestedText keeps (ValueText number keeps room) chars value rest) :
    ValueText number keeps (room + 1) chars value rest :=
  .inr text

/-- Values may be changed throughout a grammar, if what is kept of the members changes along. -/
theorem ValueText.map {f : Value → Value} {numeral : Grammar Number}
    (scalar : ∀ chars value rest, ScalarText number chars value rest →
      ScalarText numeral chars (f value) rest)
    (array : ∀ elements, f (.array elements) = .array (elements.map f))
    (object : ∀ written kept, keeps written kept →
      ∃ changed, f (.object kept) = .object changed ∧ others (written.map (Prod.map id f)) changed)
    (text : ValueText number keeps room chars value rest) :
    ValueText numeral others room chars (f value) rest := by
  induction room generalizing chars value rest with
  | zero => exact scalar _ _ _ text
  | succ room ih =>
      have inside (chars : List Char) (value : Value) (rest : List Char) :
          ValueText number keeps room chars value rest →
          ValueText numeral others room chars (f value) rest := ih
      rcases text with plain | nested
      · exact .scalar (scalar _ _ _ plain)
      · cases nested with
        | array brackets =>
            rw [array]
            exact .nested (.array (brackets.map fun _ _ _ item => item.map inside))
        | object brackets kept =>
            obtain ⟨changed, same, keeps⟩ := object _ _ kept
            rw [same]
            exact .nested (.object (brackets.map fun _ _ _ member => member.map inside) keeps)

end

/-- The text is a document of at most 127 levels, and nothing but white space is around it. -/
def DocumentText (number : Grammar Number) (keeps : Keeping) (text : String) (value : Value) :
    Prop :=
  Spaced (ValueText number keeps 127) text.toList value []

theorem DocumentText.imp {number : Grammar Number} {keeps others : Keeping} {text : String}
    {value : Value} (document : DocumentText number keeps text value)
    (wider : ∀ written kept, keeps written kept → others written kept) :
    DocumentText number others text value := by
  obtain ⟨start, behind, before, inside, after⟩ := document
  refine ⟨start, behind, before, ?_, after⟩
  refine inside.map (f := id) (fun _ _ _ scalar => scalar) (fun elements => ?_) ?_
  · exact congrArg Value.array (List.map_id elements).symm
  · intro written kept same
    have unchanged : written.map (Prod.map id id) = written := by
      rw [Prod.map_id, List.map_id]
    exact ⟨kept, rfl, unchanged.symm ▸ wider written kept same⟩

end PayloadExchange.Json
