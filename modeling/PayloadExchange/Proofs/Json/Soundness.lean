import PayloadExchange.Proofs.Json.Document
import PayloadExchange.Proofs.Json.Literals
import PayloadExchange.Proofs.Json.Numerals

/-! # What is read is in the language

A reader is sound for a grammar if it takes only what the grammar allows and gives what it
denotes. One level of reading is sound if the levels inside are, so the induction is on the room
for further levels; in a list or an object it follows the recursion over what is still to come.
-/

namespace PayloadExchange.Json

/-- Behind white space, the reader takes something of the grammar. -/
def Sound (item : Grammar Value) (reader : Reader) : Prop :=
  ∀ chars parsed, reader chars = .ok parsed →
    ∃ start, Spaces chars start ∧ item start parsed.value parsed.rest

theorem spaces_of_skipSpace {chars rest : List Char} (skipped : skipSpace chars = rest) :
    Spaces chars rest :=
  skipped ▸ spaces_skipSpace chars

section

variable {item : Grammar Value} {reader : Reader} {limit : Nat} {chars rest behind : List Char}

theorem Sound.spaced (sound : Sound item reader) {parsed : Parsed Value chars.length}
    (read : reader chars = .ok parsed) (next : skipSpace parsed.rest = rest) :
    Spaced item chars parsed.value rest := by
  obtain ⟨start, spaces, text⟩ := sound chars parsed read
  exact ⟨start, parsed.rest, spaces, text, spaces_of_skipSpace next⟩

theorem Sound.readElements (sound : Sound item reader) {done : List Value}
    {short : chars.length ≤ limit} {parsed : Parsed (List Value) limit}
    (read : readElements reader limit done chars short = .ok parsed) :
    ∃ elements, parsed.value = done.reverse ++ elements ∧
      Separated (Spaced item) chars elements (']' :: parsed.rest) := by
  fun_induction Json.readElements reader limit done chars short with
  | case1 => cases read
  | case2 => cases read
  | case3 => cases read
  | case4 done chars _ element found rest _ next _ ih =>
      obtain ⟨elements, whole, separated⟩ := ih read
      exact ⟨element.value :: elements, by simpa using whole,
        .more (sound.spaced found next) separated⟩
  | case5 done chars _ element found rest next _ _ =>
      obtain rfl := Except.ok.inj read
      exact ⟨[element.value], by simp, .single (sound.spaced found next)⟩
  | case6 => cases read

theorem Sound.readMember (sound : Sound item reader)
    {parsed : Parsed (String × Value) chars.length} (read : readMember reader chars = .ok parsed)
    (next : skipSpace parsed.rest = rest) : MemberText item chars parsed.value rest := by
  unfold Json.readMember at read
  split at read
  · next literal opened =>
      split at read
      · cases read
      next name afterKey key =>
      split at read
      · cases read
      next c afterColon separated =>
      split at read
      · next isColon =>
          subst isColon
          split at read
          · cases read
          · next value found =>
              obtain rfl := Except.ok.inj read
              exact .pair (spaces_of_skipSpace opened) (StringLiteral.stringText_of_scan key)
                (spaces_of_skipSpace separated) (sound.spaced found next)
      · cases read
  · cases read

theorem Sound.readMembers (sound : Sound item reader) {done : List (String × Value)}
    {short : chars.length ≤ limit} {parsed : Parsed (List (String × Value)) limit}
    (read : readMembers reader limit done chars short = .ok parsed) :
    ∃ members, parsed.value = done.reverse ++ members ∧
      Separated (MemberText item) chars members ('}' :: parsed.rest) := by
  fun_induction Json.readMembers reader limit done chars short with
  | case1 => cases read
  | case2 => cases read
  | case3 => cases read
  | case4 => cases read
  | case5 done chars _ found first rest _ _ next _ ih =>
      obtain ⟨members, whole, separated⟩ := ih read
      exact ⟨found.value :: members, by simpa using whole,
        .more (sound.readMember first next) separated⟩
  | case6 done chars _ found first rest next _ _ =>
      obtain rfl := Except.ok.inj read
      exact ⟨[found.value], by simp, .single (sound.readMember first next)⟩
  | case7 => cases read

variable {keeps : Keeping}

theorem Sound.readArray (sound : Sound item reader) {parsed : Parsed Value chars.length}
    (read : readArray reader chars = .ok parsed) :
    NestedText keeps item ('[' :: chars) parsed.value parsed.rest := by
  unfold Json.readArray at read
  split at read
  · cases read
  · next closed =>
      obtain rfl := Except.ok.inj read
      exact .array (.empty (spaces_of_skipSpace closed))
  · cases found : Json.readElements reader chars.length [] chars (Nat.le_refl _) with
    | error stop =>
        rw [found] at read
        cases read
    | ok list =>
        rw [found] at read
        obtain rfl := Except.ok.inj read
        obtain ⟨elements, whole, separated⟩ := sound.readElements found
        obtain rfl : list.value = elements := whole
        exact .array (.items separated)

theorem Sound.readObject (sound : Sound item reader) {parsed : Parsed Value chars.length}
    (read : readObject reader chars = .ok parsed) :
    NestedText Collected item ('{' :: chars) parsed.value parsed.rest := by
  unfold Json.readObject at read
  split at read
  · cases read
  · next closed =>
      obtain rfl := Except.ok.inj read
      exact .object (.empty (spaces_of_skipSpace closed)) (collected_self .nil)
  · cases found : Json.readMembers reader chars.length [] chars (Nat.le_refl _) with
    | error stop =>
        rw [found] at read
        cases read
    | ok list =>
        rw [found] at read
        obtain rfl := Except.ok.inj read
        obtain ⟨members, whole, separated⟩ := sound.readMembers found
        obtain rfl : list.value = members := whole
        exact .object (.items separated) (collected_collect list.value)

theorem eq_append_of_scanName {letters : List Char} (scanned : scanName letters chars = .ok rest) :
    chars = letters ++ rest := by
  fun_induction scanName letters chars with
  | case1 => exact Except.ok.inj scanned
  | case2 => cases scanned
  | case3 letters c tail ih => exact congrArg (c :: ·) (ih scanned)
  | case4 => cases scanned

theorem eq_append_of_readName {letters : List Char} {value : Value} {c : Char}
    {start : skipSpace chars = c :: rest} {parsed : Parsed Value chars.length}
    (read : readName letters value c chars rest start = .ok parsed) :
    rest = letters ++ parsed.rest ∧ parsed.value = value := by
  unfold readName at read
  split at read
  · cases read
  · next after found =>
      obtain rfl := Except.ok.inj read
      exact ⟨eq_append_of_scanName found, rfl⟩

theorem sound_readValue_level {room : Nat}
    (inside : ∀ smaller, room = smaller + 1 →
      Sound (ValueText NumberText Collected smaller) (readValue smaller)) :
    Sound (ValueText NumberText Collected room) (readValue room) := by
  intro chars parsed read
  refine ⟨skipSpace chars, spaces_skipSpace chars, ?_⟩
  unfold readValue at read
  split at read
  · cases read
  next c rest opened =>
  rw [opened]
  split at read
  · next isQuote =>
      subst isQuote
      split at read
      · cases read
      · next text after found =>
          obtain rfl := Except.ok.inj read
          exact .scalar (.string (StringLiteral.stringText_of_scan found))
  split at read
  · next isBracket =>
      subst isBracket
      split at read
      · cases read
      · next smaller =>
          cases found : readArray (readValue smaller) rest with
          | error stop => simp [found, Except.map] at read
          | ok list =>
              rw [found] at read
              obtain rfl := Except.ok.inj read
              exact .inr ((inside smaller rfl).readArray found)
  split at read
  · next isBrace =>
      subst isBrace
      split at read
      · cases read
      · next smaller =>
          cases found : readObject (readValue smaller) rest with
          | error stop => simp [found, Except.map] at read
          | ok object =>
              rw [found] at read
              obtain rfl := Except.ok.inj read
              exact .inr ((inside smaller rfl).readObject found)
  split at read
  · next isNull =>
      obtain ⟨rfl, same⟩ := eq_append_of_readName read
      rw [isNull, same]
      exact .scalar .null
  split at read
  · next isTrue =>
      obtain ⟨rfl, same⟩ := eq_append_of_readName read
      rw [isTrue, same]
      exact .scalar .true
  split at read
  · next isFalse =>
      obtain ⟨rfl, same⟩ := eq_append_of_readName read
      rw [isFalse, same]
      exact .scalar .false
  split at read
  · split at read
    · cases read
    · next number after found =>
        obtain rfl := Except.ok.inj read
        exact .scalar (.number (numberText_of_scanNumber found))
  · cases read

end

theorem sound_readValue (room : Nat) :
    Sound (ValueText NumberText Collected room) (readValue room) := by
  induction room with
  | zero =>
      apply sound_readValue_level
      intro smaller same
      cases same
  | succ room ih =>
      apply sound_readValue_level
      intro smaller same
      obtain rfl := Nat.succ.inj same
      exact ih

/-- What a text is read as is what the grammar says that it denotes. -/
theorem documentText_of_parse {text : String} {value : Value} (parsed : parse text = .ok value) :
    DocumentText NumberText Collected text value := by
  have whole := readDocument_of_parse parsed
  unfold readDocument at whole
  split at whole
  · cases whole
  · next read found =>
      split at whole
      · next finished =>
          obtain rfl := Except.ok.inj whole
          exact (sound_readValue maxDepth).spaced found finished
      · cases whole

end PayloadExchange.Json
