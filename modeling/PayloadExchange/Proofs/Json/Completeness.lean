import PayloadExchange.Proofs.Json.Literals
import PayloadExchange.Proofs.Json.Numerals
import PayloadExchange.Proofs.Json.Members
import PayloadExchange.Proofs.Json.Reading

/-! # The language is read

Every derivation of the grammar is followed by the reader. White space is where the two differ: a
derivation may stop in the midst of it, and the reader takes it up to its end, so what stands
behind an item is compared once it is skipped. The numbers of the grammar are left open, as long
as the scanner takes them.
-/

namespace PayloadExchange.Json

/-- White space does not belong to a number, nor does what ends one behind white space. -/
theorem Ends.of_spaces {chars rest : List Char} (spaces : Spaces chars rest) (ends : Ends rest) :
    Ends chars := by
  cases spaces with
  | none => exact ends
  | @more c _ _ space =>
      apply Ends.cons
      simp only [List.mem_cons, List.not_mem_nil, or_false] at space
      rcases space with rfl | rfl | rfl | rfl <;> decide

/-- A text that starts with something else than white space or the end of a list. -/
def Opens (text : List Char) : Prop := ∃ c tail, text = c :: tail ∧ isSpace c = false ∧ c ≠ ']'

/-- The reader takes what the grammar allows, and gives what it denotes. -/
structure Complete (item : Grammar Value) (reader : Reader) : Prop where
  opens {start rest : List Char} {value : Value} : item start value rest → Opens start
  reads {chars start rest : List Char} {value : Value} : Spaces chars start →
    item start value rest → Ends rest → Reads (reader chars) value rest

section

variable {item : Grammar Value} {reader : Reader} {limit : Nat} {chars rest : List Char}

theorem Complete.spaced (complete : Complete item reader) {value : Value} {c : Char}
    (text : Spaced item chars value (c :: rest)) (plain : isSpace c = false)
    (ends : extendsNumber c = false) :
    ∃ after, Reads (reader chars) value after ∧ skipSpace after = c :: rest := by
  obtain ⟨start, behind, before, inside, after⟩ := text
  refine ⟨behind, complete.reads before inside (.of_spaces after (.cons ends)), ?_⟩
  rw [after.skipSpace_eq, skipSpace_cons rest plain]

theorem Complete.separated_opens (complete : Complete item reader) {elements : List Value}
    (text : Separated (Spaced item) chars elements rest) :
    ∃ c tail, skipSpace chars = c :: tail ∧ c ≠ ']' := by
  have spaced : ∃ value behind, Spaced item chars value behind := by
    cases text with
    | single first => exact ⟨_, _, first⟩
    | more first _ => exact ⟨_, _, first⟩
  obtain ⟨_, _, _, _, before, inside, _⟩ := spaced
  obtain ⟨c, tail, rfl, plain, notBracket⟩ := complete.opens inside
  exact ⟨c, tail, by rw [before.skipSpace_eq, skipSpace_cons tail plain], notBracket⟩

theorem Complete.readElements (complete : Complete item reader) {elements : List Value}
    (text : Separated (Spaced item) chars elements (']' :: rest)) (done : List Value)
    (inLimit : chars.length ≤ limit) :
    Reads (readElements reader limit done chars inLimit) (done.reverse ++ elements) rest := by
  generalize closing : ']' :: rest = behind at text
  induction text generalizing done with
  | single first =>
      subst closing
      obtain ⟨after, read, bracket⟩ := complete.spaced first (by decide) (by decide)
      rw [← List.reverse_cons]
      exact readElements_bracket read bracket
  | @more _ others _ value _ first following ih =>
      obtain ⟨after, read, comma⟩ := complete.spaced first (by decide) (by decide)
      have more : ∀ tail, skipSpace others ≠ ']' :: tail := by
        intro tail closed
        obtain ⟨c, _, opened, notBracket⟩ := complete.separated_opens following
        exact notBracket (List.cons.inj (opened.symm.trans closed)).1
      obtain ⟨inside, step⟩ := readElements_comma read comma more
      rw [step, List.append_cons, ← List.reverse_cons]
      exact ih (value :: done) inside closing

theorem Complete.readMember (complete : Complete item reader) {member : String × Value} {c : Char}
    (text : MemberText item chars member (c :: rest)) (plain : isSpace c = false)
    (ends : extendsNumber c = false) :
    ∃ after, Reads (readMember reader chars) member after ∧ skipSpace after = c :: rest := by
  obtain ⟨before, literal, afterKey, value⟩ := text
  obtain ⟨inside, rfl, scanned⟩ := StringLiteral.scan_stringText literal
  obtain ⟨after, read, next⟩ := complete.spaced value plain ends
  refine ⟨after, readMember_pair ?_ scanned ?_ read, next⟩
  · rw [before.skipSpace_eq, skipSpace_cons _ (by decide)]
  · rw [afterKey.skipSpace_eq, skipSpace_cons _ (by decide)]

theorem separated_members_open {members : List (String × Value)}
    (text : Separated (MemberText item) chars members rest) :
    ∃ tail, skipSpace chars = '"' :: tail := by
  have first : ∃ member behind, MemberText item chars member behind := by
    cases text with
    | single first => exact ⟨_, _, first⟩
    | more first _ => exact ⟨_, _, first⟩
  obtain ⟨_, _, before, literal, _, _⟩ := first
  cases literal with
  | quoted => exact ⟨_, by rw [before.skipSpace_eq, skipSpace_cons _ (by decide)]⟩

theorem Complete.readMembers (complete : Complete item reader) {members : List (String × Value)}
    (text : Separated (MemberText item) chars members ('}' :: rest))
    (done : List (String × Value)) (inLimit : chars.length ≤ limit) :
    Reads (readMembers reader limit done chars inLimit) (done.reverse ++ members) rest := by
  generalize closing : '}' :: rest = behind at text
  induction text generalizing done with
  | single first =>
      subst closing
      obtain ⟨after, read, brace⟩ := complete.readMember first (by decide) (by decide)
      rw [← List.reverse_cons]
      exact readMembers_brace read brace
  | @more _ others _ member _ first following ih =>
      obtain ⟨after, read, comma⟩ := complete.readMember first (by decide) (by decide)
      obtain ⟨inside, step⟩ := readMembers_comma read comma (separated_members_open following)
      rw [step, List.append_cons, ← List.reverse_cons]
      exact ih (member :: done) inside closing

theorem Complete.readArray (complete : Complete item reader) {elements : List Value}
    (text : Bracketed '[' ']' (Spaced item) ('[' :: chars) elements rest) :
    Reads (readArray reader chars) (.array elements) rest := by
  cases text with
  | empty spaces =>
      exact readArray_empty (by rw [spaces.skipSpace_eq, skipSpace_cons _ (by decide)])
  | items separated =>
      obtain ⟨c, tail, opened, notBracket⟩ := complete.separated_opens separated
      exact readArray_elements opened notBracket (complete.readElements separated [] _)

theorem Complete.readObject (complete : Complete item reader) {written : List (String × Value)}
    (text : Bracketed '{' '}' (MemberText item) ('{' :: chars) written rest) :
    Reads (readObject reader chars) (.object (collect written)) rest := by
  cases text with
  | empty spaces =>
      exact readObject_empty (by rw [spaces.skipSpace_eq, skipSpace_cons _ (by decide)])
  | items separated =>
      obtain ⟨tail, opened⟩ := separated_members_open separated
      exact readObject_members opened (complete.readMembers separated [] _)

end

section

variable {number : Grammar Number} {room : Nat} {chars start rest : List Char} {value : Value}

theorem ScalarText.opens (readable : Readable number) (text : ScalarText number start value rest) :
    Opens start := by
  cases text with
  | null | true | false => exact ⟨_, _, rfl, by decide, by decide⟩
  | string literal =>
      cases literal with
      | quoted => exact ⟨_, _, rfl, by decide, by decide⟩
  | number text =>
      obtain ⟨c, tail, rfl, first⟩ := readable.start text
      exact ⟨c, tail, rfl, isSpace_of_start first, ne_of_start first (by decide)⟩

theorem NestedText.opens {keeps : Keeping}
    {inside : Grammar Value} (text : NestedText keeps inside start value rest) : Opens start := by
  cases text with
  | array brackets => cases brackets <;> exact ⟨_, _, rfl, by decide, by decide⟩
  | object brackets => cases brackets <;> exact ⟨_, _, rfl, by decide, by decide⟩

theorem Readable.scalar (readable : Readable number) (text : ScalarText number start value rest)
    (spaces : Spaces chars start) (ends : Ends rest) :
    Reads (readValue room chars) value rest := by
  have opened {c : Char} {tail : List Char} (same : start = c :: tail)
      (plain : isSpace c = false) : skipSpace chars = c :: tail := by
    rw [spaces.skipSpace_eq, same, skipSpace_cons tail plain]
  cases text with
  | null => exact readValue_null (opened rfl (by decide))
  | true => exact readValue_true (opened rfl (by decide))
  | false => exact readValue_false (opened rfl (by decide))
  | string literal =>
      obtain ⟨inside, same, scanned⟩ := StringLiteral.scan_stringText literal
      exact readValue_string (opened same (by decide)) scanned
  | number text =>
      obtain ⟨c, tail, same, first⟩ := readable.start text
      have scanned := readable.read text ends
      rw [same] at scanned
      exact readValue_number (opened same (isSpace_of_start first)) first scanned

theorem Complete.nested (complete : Complete (ValueText number Collected room) (readValue room))
    (text : NestedText Collected (ValueText number Collected room) start value rest)
    (spaces : Spaces chars start) : Reads (readValue (room + 1) chars) value rest := by
  have opened {c : Char} {tail : List Char} (same : start = c :: tail)
      (plain : isSpace c = false) : skipSpace chars = c :: tail := by
    rw [spaces.skipSpace_eq, same, skipSpace_cons tail plain]
  cases text with
  | array brackets =>
      obtain ⟨inside, rfl⟩ : ∃ inside, start = '[' :: inside := by cases brackets <;> exact ⟨_, rfl⟩
      exact readValue_array (opened rfl (by decide)) (complete.readArray brackets)
  | object brackets kept =>
      obtain ⟨inside, rfl⟩ : ∃ inside, start = '{' :: inside := by cases brackets <;> exact ⟨_, rfl⟩
      rw [kept.eq_collect]
      exact readValue_object (opened rfl (by decide)) (complete.readObject brackets)

end

/-- With each further level, what the levels inside read is read in brackets. -/
theorem complete_readValue {number : Grammar Number} (readable : Readable number) (room : Nat) :
    Complete (ValueText number Collected room) (readValue room) := by
  induction room with
  | zero =>
      exact ⟨ScalarText.opens readable, fun spaces text ends => readable.scalar text spaces ends⟩
  | succ room ih =>
      constructor
      · rintro start rest value (scalar | nested)
        · exact scalar.opens readable
        · exact nested.opens
      · rintro chars start rest value spaces (scalar | nested) ends
        · exact readable.scalar scalar spaces ends
        · exact ih.nested nested spaces

theorem readDocument_eq_ok {chars rest : List Char} {value : Value}
    (reads : Reads (readValue maxDepth chars) value rest) (finished : skipSpace rest = []) :
    readDocument chars = .ok value := by
  obtain ⟨parsed, read, rfl, rfl⟩ := reads
  simp only [readDocument, read, finished]

theorem parse_eq_ok {text : String} {value : Value} (read : readDocument text.toList = .ok value) :
    parse text = .ok value := by
  rw [parse, read]
  rfl

/-- A text of the language is read as what it denotes. -/
theorem parse_documentText {number : Grammar Number} (readable : Readable number) {text : String}
    {value : Value} (document : DocumentText number Collected text value) :
    parse text = .ok value := by
  obtain ⟨start, behind, before, inside, after⟩ := document
  have reads := (complete_readValue readable maxDepth).reads before inside (.of_spaces after .nil)
  exact parse_eq_ok (readDocument_eq_ok reads after.skipSpace_eq)

end PayloadExchange.Json
