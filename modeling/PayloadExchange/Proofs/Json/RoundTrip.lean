import PayloadExchange.Payload
import PayloadExchange.Proofs.Json.Completeness
import PayloadExchange.Proofs.Json.Printing
import PayloadExchange.Proofs.Json.Tokens

/-! # Documents are read back

The compact text of a document, with words for numbers, is read as that document: it is in the
language, and the language is read.
-/

namespace PayloadExchange.Json

theorem parse_text {value : Value} (document : Document Number.IsWord maxDepth value) :
    parse value.text = .ok value :=
  parse_documentText readable_wordText
    ((documentText_text document).imp fun _ _ inOrder => inOrder.collected)

theorem sameElements_self {elements : List Value}
    (each : ∀ value ∈ elements, value.same value = true) :
    Value.sameElements elements elements = true := by
  induction elements with
  | nil => rfl
  | cons first others ih =>
      have following := ih fun value member => each value (List.mem_cons_of_mem first member)
      rw [Value.sameElements, each first List.mem_cons_self, following, Bool.true_and]

theorem sameMembers_self {members : List (String × Value)}
    (each : ∀ member ∈ members, member.2.same member.2 = true) :
    Value.sameMembers members members = true := by
  induction members with
  | nil => rfl
  | cons first others ih =>
      have following := ih fun member listed => each member (List.mem_cons_of_mem first listed)
      rw [Value.sameMembers, each first List.mem_cons_self, following, beq_self_eq_true]
      rfl

/-- Without floats, a value equals itself also where numbers are compared as numbers. -/
theorem same_self {room : Nat} {value : Value} (document : Document Number.IsWord room value) :
    value.same value = true := by
  induction document with
  | null => rfl
  | bool value | string text => simp [Value.same]
  | @number _ number word =>
      cases number with
      | float value => exact word.elim
      | integer value => simp [Value.same, Number.same]
  | array _ ih => exact sameElements_self ih
  | object _ _ ih => exact sameMembers_self ih

end PayloadExchange.Json

namespace PayloadExchange.Payload

open Json

theorem setJsonText_eq_ok {payload changed : Payload} {text : String}
    (accepted : payload.setJsonText text = .ok changed) :
    ∃ json, parse text = .ok json ∧ json.isObject = true ∧ changed = { payload with json } := by
  unfold setJsonText at accepted
  split at accepted
  · next json parsed =>
      unfold setJson at accepted
      split at accepted
      · next isObject => exact ⟨json, parsed, isObject, (Except.ok.inj accepted).symm⟩
      · simp at accepted
  · simp at accepted

/-- Every document of words within the depth limit is what its own text leads to. -/
theorem setJsonText_text (payload : Payload) {json : Value}
    (document : Document Number.IsWord maxDepth json) (isObject : json.isObject = true) :
    payload.setJsonText json.text = .ok { payload with json } := by
  simp only [setJsonText, parse_text document, setJson, isObject, if_true]

/-- A text whose numbers are words leads to a payload whose own text leads back to it: to the
    same document on any payload, to the same text again, and with the arguments to an equal
    payload. -/
theorem jsonText_round_trip {start payload : Payload} {text : String}
    (accepted : start.setJsonText text = .ok payload) (words : HoldsWords text.toList) :
    (∀ other : Payload, ∃ again, other.setJsonText payload.jsonText = .ok again ∧
      again.json = payload.json ∧ again.json.same payload.json = true ∧
      again.args = other.args ∧ again.jsonText = payload.jsonText) ∧
    ∃ json rebuilt, parse payload.jsonText = .ok json ∧
      ofParts json payload.args = .ok rebuilt ∧ rebuilt = payload ∧
      rebuilt.same payload = true := by
  obtain ⟨json, parsed, isObject, rfl⟩ := setJsonText_eq_ok accepted
  have document := carried_holdsWords.parse words parsed
  constructor
  · intro other
    exact ⟨{ other with json }, other.setJsonText_text document isObject, rfl,
      same_self document, rfl, rfl⟩
  · refine ⟨json, _, parse_text document, ?_, rfl, ?_⟩
    · simp only [ofParts, setJson, isObject, if_true]
    · simp [same, same_self document]

/-- Of the two members under one key the last is kept, and an escaped character is written as
    it is. -/
theorem round_trip_of_repeated_key :
    let text := "\x7b\"b\": 18446744073709551615,\n \"a\" : [\"\\u00e9\\n\"]," ++
      "\"b\":-9223372036854775808\x7d"
    let written := "\x7b\"a\":[\"é\\n\"],\"b\":-9223372036854775808\x7d"
    HoldsWords text.toList ∧
    ∃ payload, Payload.setJsonText { args := [[1]] } text = .ok payload ∧
      payload.jsonText = written ∧
      ∃ again, Payload.setJsonText empty written = .ok again ∧ again.json = payload.json := by
  intro text written
  have words : HoldsWords text.toList := by
    unfold HoldsWords
    decide +kernel
  have writes : ((Payload.setJsonText { args := [[1]] } text).map jsonText).toOption
      = some written := by
    decide +kernel
  refine ⟨words, ?_⟩
  cases accepted : Payload.setJsonText { args := [[1]] } text with
  | error fault => simp [accepted, Except.map, Except.toOption] at writes
  | ok payload =>
      have same : payload.jsonText = written := by
        simpa [accepted, Except.map, Except.toOption] using writes
      obtain ⟨again, read, json, -⟩ := (jsonText_round_trip accepted words).1 empty
      rw [same] at read
      exact ⟨payload, rfl, same, again, read, json⟩

end PayloadExchange.Payload
