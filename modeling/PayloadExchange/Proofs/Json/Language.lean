import PayloadExchange.Payload.Step
import PayloadExchange.Proofs.Json.RoundTrip
import PayloadExchange.Proofs.Json.Soundness

/-! # Which texts a payload takes

A payload takes the texts of the language whose top is an object, and holds what they denote. Any
other text is refused as malformed, and then nothing changes.
-/

namespace PayloadExchange.Payload

open Json

theorem kind_of_setJsonText {payload : Payload} {text : String} {fault : Fault}
    (refused : payload.setJsonText text = .error fault) : fault.report.kind = .parse := by
  unfold setJsonText at refused
  split at refused
  · unfold setJson at refused
    split at refused
    · cases refused
    · obtain rfl := Except.error.inj refused
      rfl
  · obtain rfl := Except.error.inj refused
    rfl

theorem perform_of_setJsonText {payload : Payload} {text : String} {fault : Fault}
    (refused : payload.setJsonText text = .error fault) :
    payload.perform (.setJsonText text) = (.error fault, payload) := by
  simp only [perform, apply, refused, bind, Except.bind]

/-- What is taken is a text of the language, and the payload then holds the object that it
    denotes. A text of the language with integers for numbers is always taken, if its top is an
    object. A refusal reports a malformed text and leaves document and arguments as they were. -/
theorem setJsonText_language (payload : Payload) (text : String) :
    (∀ changed, payload.setJsonText text = .ok changed →
      ∃ json, DocumentText NumberText Collected text json ∧ json.isObject = true ∧
        changed = { payload with json }) ∧
    (∀ json, DocumentText WordText Collected text json → json.isObject = true →
      payload.setJsonText text = .ok { payload with json }) ∧
    ∀ fault, payload.setJsonText text = .error fault →
      fault.report.kind = .parse ∧
        payload.perform (.setJsonText text) = (.error fault, payload) := by
  refine ⟨?_, ?_, ?_⟩
  · intro changed accepted
    obtain ⟨json, parsed, isObject, rfl⟩ := setJsonText_eq_ok accepted
    exact ⟨json, documentText_of_parse parsed, isObject, rfl⟩
  · intro json document isObject
    simp only [setJsonText, parse_documentText readable_wordText document, setJson, isObject,
      if_true]
  · intro fault refused
    exact ⟨kind_of_setJsonText refused, perform_of_setJsonText refused⟩

/-- Of a key that is written twice, once with an escape, the second value is held; a list is
    refused. -/
theorem repeated_key_with_escape :
    let text := " \x7b\"\\u0061\":-2, \"a\" : 1 \x7d"
    let json : Value := .object [("a", .number (.integer 1))]
    let start : Payload := { args := [[0]] }
    DocumentText WordText Collected text json ∧ json.isObject = true ∧
    start.setJsonText text = .ok { start with json } ∧
    (∃ read, DocumentText NumberText Collected text read ∧ read.isObject = true ∧
      ({ start with json } : Payload) = { start with json := read }) ∧
    ∃ fault, start.setJsonText "[1]" = .error fault ∧ fault.report.kind = .parse ∧
      start.perform (.setJsonText "[1]") = (.error fault, start) := by
  intro text json start
  have first (rest : List Char) : MemberText (ValueText WordText Collected 126)
      ("\"\\u0061\":-2".toList ++ ',' :: rest) ("a", .number (.integer (-2))) (',' :: rest) := by
    have key : CharText ("\\u0061\"".toList ++ ':' :: ("-2".toList ++ ',' :: rest)) 'a' _ :=
      .unit (.digits (p := 0) (q := 0) (r := 6) (s := 1) (by decide) (by decide) (by decide)
        (by decide)) rfl
    have number : WordForm ['-', '2'] (.integer (-2)) :=
      .negative (wholeDigits_decimalDigits 2) (by decide) (by decide)
    exact .pair .none (.quoted (.cons key .nil)) .none
      (.tight (.scalar (.number ⟨['-', '2'], rfl, number⟩)))
  have second (rest : List Char) : MemberText (ValueText WordText Collected 126)
      (" \"a\" : 1 ".toList ++ '\x7d' :: rest) ("a", .number (.integer 1)) ('\x7d' :: rest) := by
    have space (chars : List Char) : Spaces (' ' :: chars) chars := .more (by decide) .none
    have key : CharText ("a\" : 1 ".toList ++ '\x7d' :: rest) 'a' _ :=
      .plain (by decide) (by decide) (by decide)
    have number : WordForm ['1'] (.integer 1) :=
      .natural (wholeDigits_decimalDigits 1) (by decide)
    have value : ValueText WordText Collected 126 ('1' :: ' ' :: '\x7d' :: rest)
        (.number (.integer 1)) (' ' :: '\x7d' :: rest) :=
      .scalar (.number ⟨['1'], rfl, number⟩)
    exact .pair (space _) (.quoted (.cons key .nil)) (space _) ⟨_, _, space _, value, space _⟩
  have kept : Collected [("a", .number (.integer (-2))), ("a", .number (.integer 1))]
      [("a", .number (.integer 1))] := by
    refine ⟨List.pairwise_singleton _ _, fun key value => ?_⟩
    simp only [lastUnder_cons, not_lastUnder_nil, List.mem_singleton, List.not_mem_nil,
      Prod.mk.injEq]
    grind
  have document : DocumentText WordText Collected text json := by
    have chars : text.toList = ' ' :: '\x7b' :: ("\"\\u0061\":-2".toList ++ ',' ::
        (" \"a\" : 1 ".toList ++ ['\x7d'])) := by
      decide
    rw [DocumentText, chars]
    have top : ValueText WordText Collected (126 + 1) _ json [] :=
      .nested (.object (.items (.more (first _) (.single (second _)))) kept)
    exact ⟨_, [], .more (by decide) .none, top, .none⟩
  have accepted := (start.setJsonText_language text).2.1 json document rfl
  obtain ⟨read, derives, isObject, same⟩ := (start.setJsonText_language text).1 _ accepted
  refine ⟨document, rfl, accepted, ⟨read, derives, isObject, same⟩, ?_⟩
  cases refused : start.setJsonText "[1]" with
  | error fault => exact ⟨fault, rfl, (start.setJsonText_language "[1]").2.2 fault refused⟩
  | ok changed =>
      have fails : ((start.setJsonText "[1]").map jsonText).toOption = none := by decide +kernel
      rw [refused] at fails
      cases fails

end PayloadExchange.Payload
