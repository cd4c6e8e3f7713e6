import PayloadExchange.Json.Parser

/-! # One level of reading

What a reader does with the first characters of a text: equations for each kind of value, for
a member, and for the two signs that may follow an element. What stands deeper is given by the
reader of the levels inside.
-/

namespace PayloadExchange.Json

/-- Reading comes to a value and leaves a rest. -/
def Reads {α : Type} {limit : Nat} (result : Except Stop (Parsed α limit)) (value : α)
    (rest : List Char) : Prop :=
  ∃ parsed, result = .ok parsed ∧ parsed.value = value ∧ parsed.rest = rest

theorem Reads.map {α β : Type} {limit larger : Nat} {result : Except Stop (Parsed α limit)}
    {value : α} {rest : List Char} (reads : Reads result value rest) (f : α → β)
    {change : Parsed α limit → Parsed β larger}
    (values : ∀ parsed, (change parsed).value = f parsed.value)
    (rests : ∀ parsed, (change parsed).rest = parsed.rest) :
    Reads (result.map change) (f value) rest := by
  obtain ⟨parsed, rfl, rfl, rfl⟩ := reads
  exact ⟨change parsed, rfl, values parsed, rests parsed⟩

theorem skipSpace_cons {c : Char} (rest : List Char) (plain : isSpace c = false) :
    skipSpace (c :: rest) = c :: rest :=
  List.dropWhile_cons_of_neg (by simp [plain])

section

variable {room limit : Nat} {chars inside after rest : List Char} {reader : Reader}

theorem readValue_string {text : String} (opened : skipSpace chars = '"' :: inside)
    (scanned : StringLiteral.scan [] inside = .ok (text, rest)) :
    Reads (readValue room chars) (.string text) rest := by
  unfold readValue
  split
  · next none => simp [opened] at none
  · next c tail found =>
      obtain ⟨rfl, rfl⟩ := List.cons.inj (opened.symm.trans found)
      rw [if_pos rfl]
      split
      · next failed => simp [scanned] at failed
      · next other behind read =>
          obtain ⟨rfl, rfl⟩ := Prod.mk.inj (Except.ok.inj (scanned.symm.trans read))
          exact ⟨_, rfl, rfl, rfl⟩

theorem readValue_array {elements : Value} (opened : skipSpace chars = '[' :: inside)
    (read : Reads (readArray (readValue room) inside) elements rest) :
    Reads (readValue (room + 1) chars) elements rest := by
  unfold readValue
  split
  · next none => simp [opened] at none
  · next c tail found =>
      obtain ⟨rfl, rfl⟩ := List.cons.inj (opened.symm.trans found)
      rw [if_neg (by decide), if_pos rfl]
      exact read.map id (fun _ => rfl) fun _ => rfl

theorem readValue_object {members : Value} (opened : skipSpace chars = '{' :: inside)
    (read : Reads (readObject (readValue room) inside) members rest) :
    Reads (readValue (room + 1) chars) members rest := by
  unfold readValue
  split
  · next none => simp [opened] at none
  · next c tail found =>
      obtain ⟨rfl, rfl⟩ := List.cons.inj (opened.symm.trans found)
      rw [if_neg (by decide), if_neg (by decide), if_pos rfl]
      exact read.map id (fun _ => rfl) fun _ => rfl

theorem readName_letters {letters : List Char} {value : Value} {c : Char}
    {start : skipSpace chars = c :: (letters ++ rest)} :
    Reads (readName letters value c chars (letters ++ rest) start) value rest := by
  have scanned : scanName letters (letters ++ rest) = .ok rest := by
    clear start
    induction letters with
    | nil => rfl
    | cons letter letters ih => simpa [scanName] using ih
  unfold readName
  split
  · next failed => simp [scanned] at failed
  · next behind found =>
      obtain rfl := Except.ok.inj (scanned.symm.trans found)
      exact ⟨_, rfl, rfl, rfl⟩

theorem readValue_null (opened : skipSpace chars = 'n' :: (['u', 'l', 'l'] ++ rest)) :
    Reads (readValue room chars) .null rest := by
  unfold readValue
  split
  · next none => simp [opened] at none
  · next c tail found =>
      obtain ⟨rfl, rfl⟩ := List.cons.inj (opened.symm.trans found)
      rw [if_neg (by decide), if_neg (by decide), if_neg (by decide), if_pos rfl]
      exact readName_letters

theorem readValue_true (opened : skipSpace chars = 't' :: (['r', 'u', 'e'] ++ rest)) :
    Reads (readValue room chars) (.bool true) rest := by
  unfold readValue
  split
  · next none => simp [opened] at none
  · next c tail found =>
      obtain ⟨rfl, rfl⟩ := List.cons.inj (opened.symm.trans found)
      rw [if_neg (by decide), if_neg (by decide), if_neg (by decide), if_neg (by decide),
        if_pos rfl]
      exact readName_letters

theorem readValue_false (opened : skipSpace chars = 'f' :: (['a', 'l', 's', 'e'] ++ rest)) :
    Reads (readValue room chars) (.bool false) rest := by
  unfold readValue
  split
  · next none => simp [opened] at none
  · next c tail found =>
      obtain ⟨rfl, rfl⟩ := List.cons.inj (opened.symm.trans found)
      rw [if_neg (by decide), if_neg (by decide), if_neg (by decide), if_neg (by decide),
        if_neg (by decide), if_pos rfl]
      exact readName_letters

theorem ne_of_start {c d : Char} (start : c = '-' ∨ c.isDigit = true)
    (plain : ¬ (d = '-' ∨ d.isDigit = true)) : c ≠ d := by
  rintro rfl
  exact plain start

theorem isSpace_of_start {c : Char} (start : c = '-' ∨ c.isDigit = true) : isSpace c = false := by
  simp only [isSpace, Bool.or_eq_false_iff, decide_eq_false_iff_not]
  exact ⟨⟨⟨ne_of_start start (by decide), ne_of_start start (by decide)⟩,
    ne_of_start start (by decide)⟩, ne_of_start start (by decide)⟩

theorem readValue_number {number : Number} {c : Char} (opened : skipSpace chars = c :: inside)
    (start : c = '-' ∨ c.isDigit = true) (scanned : scanNumber (c :: inside) = .ok (number, rest)) :
    Reads (readValue room chars) (.number number) rest := by
  have other {d : Char} := ne_of_start (d := d) start
  unfold readValue
  split
  · next none => simp [opened] at none
  · next d tail found =>
      obtain ⟨rfl, rfl⟩ := List.cons.inj (opened.symm.trans found)
      rw [if_neg (other (by decide)), if_neg (other (by decide)), if_neg (other (by decide)),
        if_neg (other (by decide)), if_neg (other (by decide)), if_neg (other (by decide)),
        if_pos (by simpa using start)]
      split
      · next failed => simp [scanned] at failed
      · next value behind read =>
          obtain ⟨rfl, rfl⟩ := Prod.mk.inj (Except.ok.inj (scanned.symm.trans read))
          exact ⟨_, rfl, rfl, rfl⟩

theorem readElements_comma {done : List Value} {value : Value} {inLimit : chars.length ≤ limit}
    (read : Reads (reader chars) value after)
    (comma : skipSpace after = ',' :: rest) (more : ∀ tail, skipSpace rest ≠ ']' :: tail) :
    ∃ restInLimit, readElements reader limit done chars inLimit
      = readElements reader limit (value :: done) rest restInLimit := by
  obtain ⟨parsed, read, rfl, rfl⟩ := read
  have restInLimit : rest.length ≤ limit := by
    have := skipSpace_length parsed.rest
    have := parsed.shorter
    simp only [comma, List.length_cons] at *
    omega
  refine ⟨restInLimit, ?_⟩
  rw [readElements]
  split
  · next failed => simp [read] at failed
  · next element found =>
      obtain rfl := Except.ok.inj (read.symm.trans found)
      split
      · next none => simp [comma] at none
      · next c tail next =>
          obtain ⟨rfl, rfl⟩ := List.cons.inj (comma.symm.trans next)
          rw [if_pos rfl]
          split
          · next closed => exact absurd closed (more _)
          · rfl

theorem readElements_bracket {done : List Value} {value : Value} {inLimit : chars.length ≤ limit}
    (read : Reads (reader chars) value after) (bracket : skipSpace after = ']' :: rest) :
    Reads (readElements reader limit done chars inLimit) (value :: done).reverse rest := by
  obtain ⟨parsed, read, rfl, rfl⟩ := read
  rw [readElements]
  split
  · next failed => simp [read] at failed
  · next element found =>
      obtain rfl := Except.ok.inj (read.symm.trans found)
      split
      · next none => simp [bracket] at none
      · next c tail next =>
          obtain ⟨rfl, rfl⟩ := List.cons.inj (bracket.symm.trans next)
          rw [if_neg (by decide), if_pos rfl]
          exact ⟨_, rfl, rfl, rfl⟩

theorem readMember_pair {name : String} {value : Value} {afterKey afterColon : List Char}
    (opened : skipSpace chars = '"' :: inside)
    (scanned : StringLiteral.scan [] inside = .ok (name, afterKey))
    (colon : skipSpace afterKey = ':' :: afterColon) (read : Reads (reader afterColon) value rest) :
    Reads (readMember reader chars) (name, value) rest := by
  obtain ⟨parsed, read, rfl, rfl⟩ := read
  unfold readMember
  split
  · next literal found =>
      obtain rfl := (List.cons.inj (opened.symm.trans found)).2
      split
      · next failed => simp [scanned] at failed
      · next text behind key =>
          obtain ⟨rfl, rfl⟩ := Prod.mk.inj (Except.ok.inj (scanned.symm.trans key))
          split
          · next none => simp [colon] at none
          · next c tail next =>
              obtain ⟨rfl, rfl⟩ := List.cons.inj (colon.symm.trans next)
              rw [if_pos rfl]
              split
              · next failed => simp [read] at failed
              · next found =>
                  obtain rfl := Except.ok.inj (read.symm.trans found)
                  exact ⟨_, rfl, rfl, rfl⟩
  · next other => exact absurd opened (other _)

theorem readMembers_comma {done : List (String × Value)} {member : String × Value}
    {inLimit : chars.length ≤ limit} (read : Reads (readMember reader chars) member after)
    (comma : skipSpace after = ',' :: rest) (more : ∃ tail, skipSpace rest = '"' :: tail) :
    ∃ restInLimit, readMembers reader limit done chars inLimit
      = readMembers reader limit (member :: done) rest restInLimit := by
  obtain ⟨parsed, read, rfl, rfl⟩ := read
  have restInLimit : rest.length ≤ limit := by
    have := skipSpace_length parsed.rest
    have := parsed.shorter
    simp only [comma, List.length_cons] at *
    omega
  refine ⟨restInLimit, ?_⟩
  obtain ⟨literal, opened⟩ := more
  rw [readMembers]
  split
  · next failed => simp [read] at failed
  · next found first =>
      obtain rfl := Except.ok.inj (read.symm.trans first)
      split
      · next none => simp [comma] at none
      · next c tail next =>
          obtain ⟨rfl, rfl⟩ := List.cons.inj (comma.symm.trans next)
          rw [if_pos rfl]
          split
          · next none => simp [opened] at none
          · next closed => simp [opened] at closed
          · rfl

theorem readMembers_brace {done : List (String × Value)} {member : String × Value}
    {inLimit : chars.length ≤ limit} (read : Reads (readMember reader chars) member after)
    (brace : skipSpace after = '}' :: rest) :
    Reads (readMembers reader limit done chars inLimit) (member :: done).reverse rest := by
  obtain ⟨parsed, read, rfl, rfl⟩ := read
  rw [readMembers]
  split
  · next failed => simp [read] at failed
  · next found first =>
      obtain rfl := Except.ok.inj (read.symm.trans first)
      split
      · next none => simp [brace] at none
      · next c tail next =>
          obtain ⟨rfl, rfl⟩ := List.cons.inj (brace.symm.trans next)
          rw [if_neg (by decide), if_pos rfl]
          exact ⟨_, rfl, rfl, rfl⟩

theorem readArray_empty (closed : skipSpace chars = ']' :: rest) :
    Reads (readArray reader chars) (.array []) rest := by
  unfold readArray
  split
  · next none => simp [closed] at none
  · next behind found =>
      obtain rfl := (List.cons.inj (closed.symm.trans found)).2
      exact ⟨_, rfl, rfl, rfl⟩
  · next other => exact absurd closed (other _)

theorem readArray_elements {elements : List Value} {c : Char}
    (opened : skipSpace chars = c :: inside) (notBracket : c ≠ ']')
    (read : Reads (readElements reader chars.length [] chars (Nat.le_refl _)) elements rest) :
    Reads (readArray reader chars) (.array elements) rest := by
  unfold readArray
  split
  · next none => simp [opened] at none
  · next behind found => exact absurd (List.cons.inj (opened.symm.trans found)).1 notBracket
  · exact read.map Value.array (fun _ => rfl) fun _ => rfl

theorem readObject_empty (closed : skipSpace chars = '}' :: rest) :
    Reads (readObject reader chars) (.object []) rest := by
  unfold readObject
  split
  · next none => simp [closed] at none
  · next behind found =>
      obtain rfl := (List.cons.inj (closed.symm.trans found)).2
      exact ⟨_, rfl, rfl, rfl⟩
  · next other => exact absurd closed (other _)

theorem readObject_members {members : List (String × Value)}
    (opened : skipSpace chars = '"' :: inside)
    (read : Reads (readMembers reader chars.length [] chars (Nat.le_refl _)) members rest) :
    Reads (readObject reader chars) (.object (collect members)) rest := by
  unfold readObject
  split
  · next none => simp [opened] at none
  · next behind found => simp [opened] at found
  · exact read.map (fun members => Value.object (collect members)) (fun _ => rfl) fun _ => rfl

end

end PayloadExchange.Json
