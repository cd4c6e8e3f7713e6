import PayloadExchange.Payload
import PayloadExchange.Proofs.Json.Characters
import PayloadExchange.Proofs.Json.Rearrangement
import PayloadExchange.Proofs.Json.RoundTrip
import PayloadExchange.Proofs.Text.Bytes

/-! # The canonical text of a document

Documents that were read and hold no floats are equal just if their texts are. The text of a
document does not depend on how it was written: neither on white space or escapes, nor on the
order of members under different keys.
-/

namespace PayloadExchange.Json

theorem areExact_iff {elements : List Value} :
    Value.areExact elements = true ↔ ∀ value ∈ elements, value.isExact = true := by
  induction elements with
  | nil => simp [Value.areExact]
  | cons first others ih => simp [Value.areExact, ih]

theorem haveExact_iff {members : List (String × Value)} :
    Value.haveExact members = true ↔ ∀ member ∈ members, member.2.isExact = true := by
  induction members with
  | nil => simp [Value.haveExact]
  | cons first others ih => simp [Value.haveExact, ih]

theorem carried_integers :
    Carried (fun _ => True) fun number => ∀ value, number = .integer value → number.IsWord where
  skip _ _ := trivial
  literal _ _ := trivial
  number := by
    rintro chars rest number - - scanned
    refine ⟨?_, trivial⟩
    rintro value rfl
    obtain ⟨token, -, -, word | ⟨-, float, same⟩⟩ := numberText_of_scanNumber scanned
    · generalize same : Number.integer value = number at word
      cases word with
      | natural whole fits =>
          obtain rfl := Number.integer.inj same
          exact ⟨by omega, by omega⟩
      | negative whole positive fits =>
          obtain rfl := Number.integer.inj same
          exact ⟨by omega, by omega⟩
    · cases same

theorem Document.words {room : Nat} {value : Value}
    (document :
      Document (fun number => ∀ value, number = .integer value → number.IsWord) room value)
    (noFloats : value.isExact = true) : Document Number.IsWord room value := by
  induction document with
  | null => exact .null
  | bool value => exact .bool value
  | string text => exact .string text
  | @number _ number fits =>
      cases number with
      | integer value => exact .number (fits value rfl)
      | float value => cases noFloats
  | array _ ih =>
      have each := areExact_iff.1 noFloats
      exact .array fun value member => ih value member (each value member)
  | object ascending _ ih =>
      have each := haveExact_iff.1 noFloats
      exact .object ascending fun member listed => ih member listed (each member listed)

theorem eq_of_sameElements {elements others : List Value}
    (each : ∀ value ∈ elements, ∀ other, value.same other = true → value = other)
    (same : Value.sameElements elements others = true) : elements = others := by
  induction elements generalizing others with
  | nil =>
      cases others with
      | nil => rfl
      | cons second others => cases same
  | cons first elements ih =>
      cases others with
      | nil => cases same
      | cons second others =>
          rw [Value.sameElements, Bool.and_eq_true] at same
          rw [each first List.mem_cons_self second same.1,
            ih (fun value member => each value (List.mem_cons_of_mem first member)) same.2]

theorem eq_of_sameMembers {members others : List (String × Value)}
    (each : ∀ member ∈ members, ∀ other, member.2.same other = true → member.2 = other)
    (same : Value.sameMembers members others = true) : members = others := by
  induction members generalizing others with
  | nil =>
      cases others with
      | nil => rfl
      | cons second others => cases same
  | cons first members ih =>
      cases others with
      | nil => cases same
      | cons second others =>
          rw [Value.sameMembers, Bool.and_eq_true, Bool.and_eq_true, beq_iff_eq] at same
          rw [Prod.ext same.1.1 (each first List.mem_cons_self second.2 same.1.2),
            ih (fun member listed => each member (List.mem_cons_of_mem first listed)) same.2]

theorem eq_of_same {a b : Value} (noFloats : a.isExact = true) (same : a.same b = true) :
    a = b := by
  induction a generalizing b with
  | null | bool | string => cases b <;> simp_all [Value.same]
  | number value =>
      cases value with
      | float value => cases noFloats
      | integer value =>
          cases b with
          | number other => cases other <;> simp_all [Value.same, Number.same]
          | null | bool | string | array | object => cases same
  | array elements each =>
      cases b with
      | array others =>
          rw [Value.same] at same
          rw [Value.isExact, areExact_iff] at noFloats
          rw [eq_of_sameElements (fun value member _ => each value member (noFloats value member))
            same]
      | null | bool | number | string | object => cases same
  | object members each =>
      cases b with
      | object others =>
          rw [Value.same] at same
          rw [Value.isExact, haveExact_iff] at noFloats
          rw [eq_of_sameMembers
            (fun member listed _ => each member listed (noFloats member listed)) same]
      | null | bool | number | string | array => cases same

theorem text_inj {a b : Value} (first : Document Number.IsWord maxDepth a)
    (second : Document Number.IsWord maxDepth b) (same : a.text = b.text) : a = b := by
  have read := parse_text first
  rw [same, parse_text second] at read
  exact (Except.ok.inj read).symm

end PayloadExchange.Json

namespace PayloadExchange.Payload

open Json

/-- The document was read from a text, and it holds no floats. -/
structure ReadExactly (payload : Payload) : Prop where
  read : ∃ (start : Payload) (text : String),
    start.setJsonText text = .ok { start with json := payload.json }
  noFloats : payload.json.isExact = true

theorem readExactly_of_setJsonText {start changed : Payload} {text : String}
    (accepted : start.setJsonText text = .ok changed) (noFloats : changed.json.isExact = true) :
    changed.ReadExactly := by
  obtain ⟨json, -, -, rfl⟩ := setJsonText_eq_ok accepted
  exact ⟨⟨start, text, accepted⟩, noFloats⟩

theorem ReadExactly.document {payload : Payload} (exactly : payload.ReadExactly) :
    Document Number.IsWord maxDepth payload.json := by
  obtain ⟨start, text, accepted⟩ := exactly.read
  obtain ⟨json, parsed, -, same⟩ := setJsonText_eq_ok accepted
  obtain rfl : payload.json = json := congrArg Payload.json same
  exact (carried_integers.parse trivial parsed).words exactly.noFloats

theorem same_iff {a b : Payload} (first : a.ReadExactly) (second : b.ReadExactly) :
    a.same b = true ↔ a.jsonText = b.jsonText ∧ a.args = b.args := by
  rw [same, Bool.and_eq_true, beq_iff_eq]
  refine and_congr_left fun _ => ⟨fun equal => ?_, fun written => ?_⟩
  · rw [jsonText, jsonText, eq_of_same first.noFloats equal]
  · rw [text_inj first.document second.document written]
    exact same_self second.document

/-- Texts that differ in white space, in escapes or in the order of members with different keys
    lead to the same text again. -/
theorem jsonText_of_rearranged {start other changed : Payload} {text another : String}
    {written rearranged : Value} (document : DocumentText NumeralText (· = ·) text written)
    (differs : DocumentText NumeralText (· = ·) another rearranged)
    (order : Rearranged written rearranged) (accepted : start.setJsonText text = .ok changed) :
    ∃ again, other.setJsonText another = .ok again ∧ again.jsonText = changed.jsonText := by
  obtain ⟨json, parsed, isObject, rfl⟩ := setJsonText_eq_ok accepted
  obtain ⟨value, first, second⟩ := parse_rearranged readable_numeralText document differs order
  obtain rfl := Except.ok.inj (first.symm.trans parsed)
  refine ⟨{ other with json := value }, ?_, rfl⟩
  simp only [setJsonText, second, setJson, isObject, if_true]

/-- For documents that were read and hold no floats the text is a canonical form: equality of
    payloads is equality of their texts and arguments. Neither white space nor escapes nor the
    order of different members in what was read show in it. The text itself is in the language,
    with the keys of every object in order; no white space is in it but in string literals, and
    no byte of a control. -/
theorem jsonText_canonical {a b : Payload} (first : a.ReadExactly) (second : b.ReadExactly) :
    (a.same b = true ↔ a.jsonText = b.jsonText ∧ a.args = b.args) ∧
    (∀ (start other changed : Payload) (text another : String) (written rearranged : Value),
      DocumentText NumeralText (· = ·) text written →
      DocumentText NumeralText (· = ·) another rearranged → Rearranged written rearranged →
      start.setJsonText text = .ok changed →
      ∃ again, other.setJsonText another = .ok again ∧ again.jsonText = changed.jsonText) ∧
    DocumentText WordText InOrder a.jsonText a.json ∧
    (∀ c ∈ outsideLiterals a.jsonText.toList, isSpace c = false) ∧
    ∀ byte ∈ Text.utf8 a.jsonText, 0x20 ≤ byte := by
  refine ⟨same_iff first second, ?_, documentText_text first.document, ?_, ?_⟩
  · intro start other changed text another written rearranged document differs order accepted
    exact jsonText_of_rearranged document differs order accepted
  · rw [jsonText, Value.text, String.toList_ofList]
    exact a.json.tight_print
  · exact Text.visible_utf8 a.json.visible_print

/-- The same two members in either order, one key once with an escape. -/
theorem canonical_in_either_order :
    let text := "\x7b\"b\":1,\"a\":2\x7d"
    let another := " \x7b\"\\u0061\" :2,\"b\":1\x7d"
    let one : Value := .number (.integer 1)
    let two : Value := .number (.integer 2)
    DocumentText NumeralText (· = ·) text (.object [("b", one), ("a", two)]) ∧
    DocumentText NumeralText (· = ·) another (.object [("a", two), ("b", one)]) ∧
    ∃ a b : Payload, empty.setJsonText text = .ok a ∧ a.ReadExactly ∧
      empty.setJsonText another = .ok b ∧ b.ReadExactly ∧
      a.jsonText = "\x7b\"a\":2,\"b\":1\x7d" ∧ b.jsonText = a.jsonText ∧ a.same b = true := by
  intro text another one two
  have keyB (rest : List Char) : StringText ("\"b\"".toList ++ rest) "b" rest :=
    .quoted (.cons (.plain (by decide) (by decide) (by decide)) .nil)
  have keyA (rest : List Char) : StringText ("\"a\"".toList ++ rest) "a" rest :=
    .quoted (.cons (.plain (by decide) (by decide) (by decide)) .nil)
  have escapedA (rest : List Char) : StringText ("\"\\u0061\"".toList ++ rest) "a" rest := by
    have code : CharText ("\\u0061\"".toList ++ rest) 'a' ('"' :: rest) :=
      .unit (.digits (p := 0) (q := 0) (r := 6) (s := 1) (by decide) (by decide) (by decide)
        (by decide)) rfl
    exact .quoted (.cons code .nil)
  have valueOne (rest : List Char) : ValueText NumeralText (· = ·) 126 ('1' :: rest) one rest := by
    have word : WordForm ['1'] (.integer 1) :=
      .natural (wholeDigits_decimalDigits 1) (by decide)
    exact .scalar (.number (WordText.numeral ⟨['1'], rfl, word⟩))
  have valueTwo (rest : List Char) : ValueText NumeralText (· = ·) 126 ('2' :: rest) two rest := by
    have word : WordForm ['2'] (.integer 2) :=
      .natural (wholeDigits_decimalDigits 2) (by decide)
    exact .scalar (.number (WordText.numeral ⟨['2'], rfl, word⟩))
  have document : DocumentText NumeralText (· = ·) text (.object [("b", one), ("a", two)]) := by
    have chars : text.toList = '\x7b' :: ("\"b\"".toList ++ ':' :: '1' :: ',' ::
        ("\"a\"".toList ++ ':' :: '2' :: ['\x7d'])) := by
      decide
    have top : ValueText NumeralText (· = ·) (126 + 1) _ (.object [("b", one), ("a", two)]) [] :=
      .nested (.object (.items (.more (.pair .none (keyB _) .none (.tight (valueOne _)))
        (.single (.pair .none (keyA _) .none (.tight (valueTwo _)))))) rfl)
    rw [DocumentText, chars]
    exact .tight top
  have differs : DocumentText NumeralText (· = ·) another (.object [("a", two), ("b", one)]) := by
    have space (rest : List Char) : Spaces (' ' :: rest) rest := .more (by decide) .none
    have chars : another.toList = ' ' :: '\x7b' :: ("\"\\u0061\"".toList ++ ' ' :: ':' :: '2' ::
        ',' :: ("\"b\"".toList ++ ':' :: '1' :: ['\x7d'])) := by
      decide
    have top : ValueText NumeralText (· = ·) (126 + 1) _ (.object [("a", two), ("b", one)]) [] :=
      .nested (.object (.items (.more (.pair .none (escapedA _) (space _) (.tight (valueTwo _)))
        (.single (.pair .none (keyB _) .none (.tight (valueOne _)))))) rfl)
    rw [DocumentText, chars]
    exact ⟨_, [], space _, top, .none⟩
  have order : Rearranged (.object [("b", one), ("a", two)]) (.object [("a", two), ("b", one)]) :=
    .swap [] [] (by decide)
  have reads (known : String) (listed : known ∈ [text, another]) : ∃ payload,
      empty.setJsonText known = .ok payload ∧ payload.ReadExactly ∧
        payload.jsonText = "\x7b\"a\":2,\"b\":1\x7d" ∧ payload.args = [] := by
    have found : ∀ known ∈ [text, another],
        ((empty.setJsonText known).map fun payload =>
          (payload.json.isExact, payload.jsonText, payload.args)).toOption
          = some (true, "\x7b\"a\":2,\"b\":1\x7d", []) := by
      decide +kernel
    have delivers := found known listed
    cases accepted : empty.setJsonText known with
    | error fault =>
        rw [accepted] at delivers
        cases delivers
    | ok payload =>
        rw [accepted] at delivers
        obtain ⟨noFloats, wrote, args⟩ : payload.json.isExact = true ∧ payload.jsonText = _ ∧
          payload.args = [] := by simpa [Except.map, Except.toOption] using delivers
        exact ⟨payload, rfl, readExactly_of_setJsonText accepted noFloats, wrote, args⟩
  obtain ⟨a, accepted, first, wrote, args⟩ := reads text (by simp)
  obtain ⟨b, again, second, -, others⟩ := reads another (by simp)
  obtain ⟨canonical, orderless, -⟩ := jsonText_canonical first second
  obtain ⟨_, repeated, same⟩ :=
    orderless empty empty a text another _ _ document differs order accepted
  obtain rfl := Except.ok.inj (again.symm.trans repeated)
  exact ⟨document, differs, a, b, accepted, first, again, second, wrote, same,
    canonical.2 ⟨same.symm, args.trans others.symm⟩⟩

end PayloadExchange.Payload
