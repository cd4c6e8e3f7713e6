import PayloadExchange.Json.Parser
import PayloadExchange.Proofs.Json.Members

/-! # What reading delivers

`Document` describes the values that reading can give: how deeply they are nested, which
numbers they hold, and that the members of an object are in order. `readValue_document` shows
it of the reader. Which numbers a text leads to hangs on the text, so the proof carries along a
property of the text still unread.
-/

namespace PayloadExchange.Json

/-- A value with at most so many levels of lists and objects, with allowed numbers only, and
    with the members of every object under strictly ascending keys. -/
inductive Document (allowed : Number → Prop) : Nat → Value → Prop where
  | null {room} : Document allowed room .null
  | bool {room} (value : Bool) : Document allowed room (.bool value)
  | number {room number} (fits : allowed number) : Document allowed room (.number number)
  | string {room} (text : String) : Document allowed room (.string text)
  | array {room elements} (each : ∀ value ∈ elements, Document allowed room value) :
      Document allowed (room + 1) (.array elements)
  | object {room members} (ascending : members.Pairwise fun a b => keyOrder a.1 b.1 = .lt)
      (each : ∀ member ∈ members, Document allowed room member.2) :
      Document allowed (room + 1) (.object members)

/-- A string or a number starts with this character. -/
def opensToken (c : Char) : Bool := c == '"' || c == '-' || c.isDigit

/-- A property of unread text that reading a token preserves, and that leaves allowed numbers
    only. -/
structure Carried (tame : List Char → Prop) (allowed : Number → Prop) : Prop where
  skip {c : Char} {rest : List Char} : tame (c :: rest) → opensToken c = false → tame rest
  literal {chars rest : List Char} {text : String} : tame ('"' :: chars) →
    StringLiteral.scan [] chars = .ok (text, rest) → tame rest
  number {chars rest : List Char} {number : Number} : tame chars →
    (∃ c tail, chars = c :: tail ∧ (c = '-' ∨ c.isDigit = true)) →
    scanNumber chars = .ok (number, rest) → allowed number ∧ tame rest

/-- From tame text the reader delivers values with a property, and it leaves tame text. -/
def Delivers (tame : List Char → Prop) (holds : Value → Prop) (reader : Reader) : Prop :=
  ∀ chars parsed, tame chars → reader chars = .ok parsed → holds parsed.value ∧ tame parsed.rest

section

variable {tame : List Char → Prop} {allowed : Number → Prop} {holds : Value → Prop}

theorem Carried.skipSpace (carried : Carried tame allowed) {chars : List Char}
    (start : tame chars) : tame (skipSpace chars) := by
  induction chars with
  | nil => exact start
  | cons c chars ih =>
      unfold Json.skipSpace
      rw [List.dropWhile_cons]
      split
      · next space =>
          simp only [isSpace, Bool.or_eq_true, decide_eq_true_eq] at space
          have plain : opensToken c = false := by
            rcases space with ((rfl | rfl) | rfl) | rfl <;> decide
          exact ih (carried.skip start plain)
      · exact start

theorem Carried.scanName (carried : Carried tame allowed) {letters chars rest : List Char}
    (plain : letters.any opensToken = false)
    (start : tame chars) (scanned : scanName letters chars = .ok rest) : tame rest := by
  fun_induction Json.scanName letters chars with
  | case1 => exact Except.ok.inj scanned ▸ start
  | case2 => simp at scanned
  | case3 letter letters tail ih =>
      rw [List.any_cons, Bool.or_eq_false_iff] at plain
      exact ih plain.2 (carried.skip start plain.1) scanned
  | case4 => simp at scanned

theorem Carried.readElements (carried : Carried tame allowed) {reader : Reader}
    (delivers : Delivers tame holds reader) {limit : Nat} {done : List Value} {chars : List Char}
    {short : chars.length ≤ limit} {parsed : Parsed (List Value) limit} (start : tame chars)
    (before : ∀ value ∈ done, holds value)
    (read : readElements reader limit done chars short = .ok parsed) :
    (∀ value ∈ parsed.value, holds value) ∧ tame parsed.rest := by
  fun_induction Json.readElements reader limit done chars short with
  | case1 => simp at read
  | case2 => simp at read
  | case3 => simp at read
  | case4 done chars _ element found rest _ next _ ih =>
      obtain ⟨first, after⟩ := delivers chars element start found
      have comma : tame (',' :: rest) := next ▸ carried.skipSpace after
      refine ih (carried.skip comma (by decide)) ?_ read
      intro value member
      rcases List.mem_cons.1 member with rfl | old
      · exact first
      · exact before value old
  | case5 done chars _ element found rest next _ _ =>
      obtain ⟨first, after⟩ := delivers chars element start found
      have bracket : tame (']' :: rest) := next ▸ carried.skipSpace after
      obtain rfl := Except.ok.inj read
      refine ⟨?_, carried.skip bracket (by decide)⟩
      intro value member
      rw [List.mem_reverse, List.mem_cons] at member
      rcases member with rfl | old
      · exact first
      · exact before value old
  | case6 => simp at read

theorem Carried.readMember (carried : Carried tame allowed) {reader : Reader}
    (delivers : Delivers tame holds reader)
    {chars : List Char} {parsed : Parsed (String × Value) chars.length} (start : tame chars)
    (read : readMember reader chars = .ok parsed) :
    holds parsed.value.2 ∧ tame parsed.rest := by
  unfold Json.readMember at read
  split at read
  · next literal opened =>
      split at read
      · simp at read
      · next name afterKey key =>
          have quote : tame ('"' :: literal) := opened ▸ carried.skipSpace start
          have keyRead := carried.literal quote key
          split at read
          · simp at read
          · next c afterColon separated =>
              have colon : tame (c :: afterColon) := separated ▸ carried.skipSpace keyRead
              split at read
              · next isColon =>
                  subst isColon
                  split at read
                  · simp at read
                  · next value found =>
                      obtain rfl := Except.ok.inj read
                      exact delivers afterColon value
                        (carried.skip colon (by decide)) found
              · simp at read
  · simp at read

theorem Carried.readMembers (carried : Carried tame allowed) {reader : Reader}
    (delivers : Delivers tame holds reader) {limit : Nat} {done : List (String × Value)}
    {chars : List Char} {short : chars.length ≤ limit}
    {parsed : Parsed (List (String × Value)) limit} (start : tame chars)
    (before : ∀ member ∈ done, holds member.2)
    (read : readMembers reader limit done chars short = .ok parsed) :
    (∀ member ∈ parsed.value, holds member.2) ∧ tame parsed.rest := by
  fun_induction Json.readMembers reader limit done chars short with
  | case1 => simp at read
  | case2 => simp at read
  | case3 => simp at read
  | case4 => simp at read
  | case5 done chars _ found readFirst rest _ _ next _ ih =>
      obtain ⟨first, after⟩ := carried.readMember delivers start readFirst
      have comma : tame (',' :: rest) := next ▸ carried.skipSpace after
      refine ih (carried.skip comma (by decide)) ?_ read
      intro member listed
      rcases List.mem_cons.1 listed with rfl | old
      · exact first
      · exact before member old
  | case6 done chars _ found readFirst rest next _ _ =>
      obtain ⟨first, after⟩ := carried.readMember delivers start readFirst
      have brace : tame ('}' :: rest) := next ▸ carried.skipSpace after
      obtain rfl := Except.ok.inj read
      refine ⟨?_, carried.skip brace (by decide)⟩
      intro member listed
      rw [List.mem_reverse, List.mem_cons] at listed
      rcases listed with rfl | old
      · exact first
      · exact before member old
  | case7 => simp at read

theorem Carried.readArray (carried : Carried tame allowed) {reader : Reader} {room : Nat}
    (delivers : Delivers tame (Document allowed room) reader) :
    Delivers tame (Document allowed (room + 1)) (readArray reader) := by
  intro chars parsed start read
  have unspaced := carried.skipSpace start
  unfold Json.readArray at read
  split at read
  · simp at read
  · next rest closed =>
      obtain rfl := Except.ok.inj read
      rw [closed] at unspaced
      exact ⟨.array (by simp), carried.skip unspaced (by decide)⟩
  · cases found : Json.readElements reader chars.length [] chars (Nat.le_refl _) with
    | error stop => simp [found, Except.map] at read
    | ok elements =>
        obtain ⟨each, after⟩ := carried.readElements delivers start (by simp) found
        rw [found] at read
        obtain rfl := Except.ok.inj read
        exact ⟨.array each, after⟩

theorem Carried.readObject (carried : Carried tame allowed) {reader : Reader} {room : Nat}
    (delivers : Delivers tame (Document allowed room) reader) :
    Delivers tame (Document allowed (room + 1)) (readObject reader) := by
  intro chars parsed start read
  have unspaced := carried.skipSpace start
  unfold Json.readObject at read
  split at read
  · simp at read
  · next rest closed =>
      obtain rfl := Except.ok.inj read
      rw [closed] at unspaced
      exact ⟨.object .nil (by simp), carried.skip unspaced (by decide)⟩
  · cases found : Json.readMembers reader chars.length [] chars (Nat.le_refl _) with
    | error stop => simp [found, Except.map] at read
    | ok members =>
        obtain ⟨each, after⟩ := carried.readMembers delivers start (by simp) found
        rw [found] at read
        obtain rfl := Except.ok.inj read
        refine ⟨.object (collect_ascending members.value) ?_, after⟩
        intro member listed
        exact each member (mem_of_mem_collect listed)

theorem Carried.readName (carried : Carried tame allowed) {room : Nat}
    {letters chars rest : List Char} {value : Value} {c : Char}
    {start : Json.skipSpace chars = c :: rest} {parsed : Parsed Value chars.length}
    (plain : (c :: letters).any opensToken = false)
    (document : Document allowed room value) (unspaced : tame (c :: rest))
    (read : readName letters value c chars rest start = .ok parsed) :
    Document allowed room parsed.value ∧ tame parsed.rest := by
  unfold Json.readName at read
  split at read
  · simp at read
  · next after found =>
      obtain rfl := Except.ok.inj read
      rw [List.any_cons, Bool.or_eq_false_iff] at plain
      exact ⟨document, carried.scanName plain.2 (carried.skip unspaced plain.1) found⟩

/-- One level of reading, given what the levels inside give. -/
theorem Carried.readValue_level (carried : Carried tame allowed) {room : Nat}
    (inside : ∀ smaller, room = smaller + 1 →
      Delivers tame (Document allowed smaller) (readValue smaller)) :
    Delivers tame (Document allowed room) (readValue room) := by
  intro chars parsed start read
  have unspaced := carried.skipSpace start
  unfold Json.readValue at read
  split at read
  · simp at read
  next c rest opened =>
  rw [opened] at unspaced
  split at read
  · next isQuote =>
      subst isQuote
      split at read
      · simp at read
      · next text after found =>
          obtain rfl := Except.ok.inj read
          exact ⟨.string text, carried.literal unspaced found⟩
  split at read
  · next isBracket =>
      subst isBracket
      split at read
      · simp at read
      · next smaller =>
          have behind := carried.skip unspaced (by decide)
          cases found : Json.readArray (Json.readValue smaller) rest with
          | error stop => simp [found, Except.map] at read
          | ok list =>
              rw [found] at read
              obtain rfl := Except.ok.inj read
              exact carried.readArray (inside smaller rfl) rest list behind found
  split at read
  · next isBrace =>
      subst isBrace
      split at read
      · simp at read
      · next smaller =>
          have behind := carried.skip unspaced (by decide)
          cases found : Json.readObject (Json.readValue smaller) rest with
          | error stop => simp [found, Except.map] at read
          | ok object =>
              rw [found] at read
              obtain rfl := Except.ok.inj read
              exact carried.readObject (inside smaller rfl) rest object behind found
  split at read
  · next same =>
      subst same
      exact carried.readName (by decide) .null unspaced read
  split at read
  · next same =>
      subst same
      exact carried.readName (by decide) (.bool true) unspaced read
  split at read
  · next same =>
      subst same
      exact carried.readName (by decide) (.bool false) unspaced read
  split at read
  · next isNumber =>
      split at read
      · simp at read
      · next number after found =>
          obtain rfl := Except.ok.inj read
          have start : ∃ d tail, c :: rest = d :: tail ∧ (d = '-' ∨ d.isDigit = true) :=
            ⟨c, rest, rfl, by simpa using isNumber⟩
          obtain ⟨fits, behind⟩ := carried.number unspaced start found
          exact ⟨.number fits, behind⟩
  · simp at read

theorem Carried.readValue (carried : Carried tame allowed) (room : Nat) :
    Delivers tame (Document allowed room) (readValue room) := by
  induction room with
  | zero =>
      apply carried.readValue_level
      intro smaller same
      exact absurd same (by omega)
  | succ room ih =>
      apply carried.readValue_level
      intro smaller same
      obtain rfl : room = smaller := Nat.succ.inj same
      exact ih

theorem readDocument_of_parse {text : String} {value : Value} (parsed : parse text = .ok value) :
    readDocument text.toList = .ok value := by
  rw [Json.parse] at parsed
  cases found : readDocument text.toList with
  | error stop =>
      rw [found] at parsed
      have refused : Except.error (stop.inText text) = Except.ok value := parsed
      cases refused
  | ok read =>
      rw [found] at parsed
      have same : (Except.ok read : Except SyntaxError Value) = .ok value := parsed
      rw [Except.ok.inj same]

/-- The documents that a text with the carried property can be the form of. -/
theorem Carried.parse (carried : Carried tame allowed) {text : String} {value : Value}
    (start : tame text.toList) (parsed : parse text = .ok value) :
    Document allowed maxDepth value := by
  have whole := readDocument_of_parse parsed
  unfold readDocument at whole
  split at whole
  · cases whole
  · next read found =>
      obtain ⟨document, -⟩ := carried.readValue maxDepth text.toList read start found
      split at whole
      · obtain rfl := Except.ok.inj whole
        exact document
      · cases whole

end

end PayloadExchange.Json
