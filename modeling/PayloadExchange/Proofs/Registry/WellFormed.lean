import PayloadExchange.Proofs.Payload.Halves
import PayloadExchange.Proofs.Registry.Course
import PayloadExchange.Proofs.Sequence

/-! # Stored objects are well formed

The document of a stored payload is a JSON object, and the names of a stored command are
identifiers. Both are checked where an object is put together; after that only documents are
replaced, and a replacement is checked as well. So no run of operations can store anything else.
-/

namespace PayloadExchange

/-- The names of the interface and the operation, of a command. -/
def Object.names : Object → Option (String × String)
  | data _ => none
  | command named => some (named.interface, named.operation)

/-- The document is a JSON object, and a command is named by identifiers. -/
structure Object.WellFormed (object : Object) : Prop where
  document : object.payload.json.isObject = true
  names : ∀ interface operation, object.names = some (interface, operation) →
    Identifier.Valid (Text.utf8 interface) ∧ Identifier.Valid (Text.utf8 operation)

def Registry.WellFormed (registry : Registry) : Prop :=
  ∀ (handle : Handle) (object : Object),
    registry.entries[handle]? = some object → object.WellFormed

namespace Payload

variable {payload changed : Payload}

theorem setJson_eq_ok {json : Json.Value} (set : payload.setJson json = .ok changed) :
    json.isObject = true ∧ changed = { payload with json } := by
  unfold setJson at set
  split at set
  · next isObject => exact ⟨isObject, (Except.ok.inj set).symm⟩
  · cases set

theorem isObject_of_setJson {json : Json.Value} (set : payload.setJson json = .ok changed) :
    changed.json.isObject = true := by
  obtain ⟨isObject, rfl⟩ := setJson_eq_ok set
  exact isObject

theorem isObject_of_setJsonText {text : String} (set : payload.setJsonText text = .ok changed) :
    changed.json.isObject = true := by
  unfold setJsonText at set
  split at set
  · exact isObject_of_setJson set
  · cases set

theorem perform_json (payload : Payload) (step : Step) :
    (payload.perform step).2.json = payload.json ∨
      (payload.perform step).2.json.isObject = true := by
  cases about : step.half? with
  | none =>
      cases step with
      | state | dump | abort => exact .inl rfl
      | _ => cases about
  | some half =>
      cases half with
      | arguments => exact .inl (halved_perform.json_of_arguments about payload)
      | document =>
          unfold perform
          cases done : payload.apply step with
          | error fault => exact .inl rfl
          | ok found =>
              cases step with
              | jsonText =>
                  obtain rfl := Except.ok.inj done
                  exact .inl rfl
              | setJsonText text =>
                  obtain ⟨found, set, same⟩ := ok_of_bind done
                  obtain rfl := Except.ok.inj same
                  exact .inr (isObject_of_setJsonText set)
              | setJson json =>
                  obtain ⟨found, set, same⟩ := ok_of_bind done
                  obtain rfl := Except.ok.inj same
                  exact .inr (isObject_of_setJson set)
              | _ => cases about

theorem perform_isObject (document : payload.json.isObject = true) (step : Step) :
    (payload.perform step).2.json.isObject = true := by
  rcases perform_json payload step with same | isObject
  · rwa [same]
  · exact isObject

theorem performAll_isObject (document : payload.json.isObject = true) (steps : List Step) :
    (payload.performAll steps).2.json.isObject = true := by
  induction steps generalizing payload with
  | nil => exact document
  | cons step steps ih =>
      have after := perform_isObject document step
      unfold performAll
      split
      · next answer changed done =>
          rw [done] at after
          exact ih after
      · next fault unchanged failed =>
          rw [failed] at after
          exact after

end Payload

namespace Object

@[simp] theorem payload_withPayload (object : Object) (payload : Payload) :
    (object.withPayload payload).payload = payload := by
  cases object <;> rfl

@[simp] theorem kind_withPayload (object : Object) (payload : Payload) :
    (object.withPayload payload).kind = object.kind := by
  cases object <;> rfl

@[simp] theorem names_withPayload (object : Object) (payload : Payload) :
    (object.withPayload payload).names = object.names := by
  cases object <;> rfl

theorem wellFormed_data {payload : Payload} (document : payload.json.isObject = true) :
    (Object.data payload).WellFormed :=
  ⟨document, nofun⟩

theorem WellFormed.withPayload {object : Object} (formed : object.WellFormed) {payload : Payload}
    (document : payload.json.isObject = true) : (object.withPayload payload).WellFormed where
  document := by rwa [payload_withPayload]
  names := by rw [names_withPayload]; exact formed.names

theorem WellFormed.editCommand {α : Type} {object : Object} (formed : object.WellFormed)
    {change : Payload → Except Fault α × Payload}
    (kept : ∀ payload, payload.json.isObject = true → (change payload).2.json.isObject = true) :
    (object.editCommand change).2.WellFormed := by
  cases object with
  | data payload => exact formed
  | command named => exact formed.withPayload (kept named.payload formed.document)

end Object

theorem Command.wellFormed_of_make {interface operation : String} {payload : Payload}
    {command : Command} (document : payload.json.isObject = true)
    (made : Command.make interface operation payload = .ok command) :
    (Object.command command).WellFormed := by
  obtain ⟨⟨⟩, first, made⟩ := ok_of_bind made
  obtain ⟨⟨⟩, second, made⟩ := ok_of_bind made
  obtain rfl := Except.ok.inj made
  refine ⟨document, ?_⟩
  rintro _ _ ⟨⟩
  exact ⟨(Identifier.check_eq_ok_iff interface).1 first,
    (Identifier.check_eq_ok_iff operation).1 second⟩

theorem Parts.build_wellFormed {parts : Parts} {object : Object}
    (built : parts.build = .ok object) : object.WellFormed := by
  obtain ⟨payload, set, built⟩ := ok_of_bind built
  have document := Payload.isObject_of_setJson set
  split at built
  · obtain rfl := Except.ok.inj built
    exact Object.wellFormed_data document
  · obtain ⟨command, made, built⟩ := ok_of_bind built
    obtain rfl := Except.ok.inj built
    exact Command.wellFormed_of_make document made

theorem Draft.build_wellFormed {draft : Draft} {object : Object}
    (built : draft.build = .ok object) : object.WellFormed := by
  obtain ⟨json, -, built⟩ := ok_of_bind built
  exact Parts.build_wellFormed built

namespace Registry

namespace WellFormed

variable {registry : Registry}

theorem empty (config : Config) : (Registry.empty config).WellFormed := by
  intro handle object live
  simp [Registry.empty] at live

theorem edit {α : Type} (formed : registry.WellFormed) (handle : Handle)
    {change : Object → Except Fault α × Object}
    (kept : ∀ object, object.WellFormed → (change object).2.WellFormed) :
    (registry.edit handle change).2.WellFormed := by
  intro key object live
  rw [getElem?_entries_edit] at live
  split at live
  · obtain ⟨before, found, rfl⟩ := Option.map_eq_some_iff.1 live
    exact kept before (formed handle before found)
  · exact formed key object live

theorem editPayload {α : Type} (formed : registry.WellFormed) (handle : Handle)
    {change : Payload → Except Fault α × Payload}
    (kept : ∀ payload, payload.json.isObject = true → (change payload).2.json.isObject = true) :
    (registry.editPayload handle change).2.WellFormed :=
  formed.edit handle fun object before => before.withPayload (kept object.payload before.document)

theorem assign (formed : registry.WellFormed) (target source : Handle) :
    (registry.assign target source).2.WellFormed := by
  unfold Registry.assign
  cases found : registry.lookup source with
  | error fault => exact formed
  | ok object =>
      have copied := (formed source object (lookup_eq_ok_iff.1 found)).document
      exact formed.editPayload target fun _ _ => copied

theorem insert (formed : registry.WellFormed) {object : Object} (before : object.WellFormed)
    {fresh : Handle} {grown : Registry} (stored : registry.insert object = .ok (fresh, grown)) :
    grown.WellFormed := by
  intro key found live
  rw [(getElem?_entries_insert stored key).2] at live
  split at live
  · obtain rfl := Option.some.inj live
    exact before
  · exact formed key found live

theorem take (formed : registry.WellFormed) {handle : Handle} {object : Object}
    {without : Registry} (taken : registry.take handle = .ok (object, without)) :
    object.WellFormed ∧ without.WellFormed := by
  refine ⟨formed handle object (take_eq_ok taken).1, ?_⟩
  intro key found live
  rw [getElem?_entries_take taken] at live
  split at live
  · cases live
  · exact formed key found live

theorem clear (registry : Registry) : registry.clear.2.WellFormed := by
  intro handle object live
  simp [Registry.clear] at live

theorem changing (formed : registry.WellFormed) {result : Except Fault (Answer × Registry)}
    (each : ∀ answer changed, result = .ok (answer, changed) → changed.WellFormed) :
    (registry.changing result).2.WellFormed := by
  cases result with
  | error fault => exact formed
  | ok found => exact each found.1 found.2 rfl

theorem store (formed : registry.WellFormed) {object : Except Fault Object}
    (built : ∀ found, object = .ok found → found.WellFormed) :
    (registry.changing do
      let (handle, changed) ← registry.insert (← object)
      return (.handle handle, changed)).2.WellFormed := by
  apply formed.changing
  intro answer changed done
  obtain ⟨found, made, done⟩ := ok_of_bind done
  obtain ⟨grown, stored, done⟩ := ok_of_bind done
  obtain ⟨-, rfl⟩ := Prod.mk.inj (Except.ok.inj done)
  exact formed.insert (built found made) stored

theorem perform (formed : registry.WellFormed) (operation : Operation) :
    (registry.perform operation).2.WellFormed := by
  cases operation with
  | create draft => exact formed.store fun _ => Draft.build_wellFormed
  | insert parts => exact formed.store fun _ => Parts.build_wellFormed
  | kind | read | dump | count | isEmpty | config | leakCheck | interface | operation
  | commandPayload | equal => exact formed
  | delete handle =>
      apply formed.changing
      intro answer changed done
      obtain ⟨without, deleted, done⟩ := ok_of_bind done
      obtain ⟨-, rfl⟩ := Prod.mk.inj (Except.ok.inj done)
      obtain ⟨object, taken⟩ := delete_eq_ok deleted
      exact (formed.take taken).2
  | take handle =>
      apply formed.changing
      intro answer changed done
      obtain ⟨found, taken, done⟩ := ok_of_bind done
      obtain ⟨-, rfl⟩ := Prod.mk.inj (Except.ok.inj done)
      exact (formed.take taken).2
  | move handle =>
      rw [Registry.perform]
      cases taken : registry.take handle with
      | error fault => exact formed
      | ok found =>
          obtain ⟨object, without⟩ := formed.take taken
          apply without.changing
          intro answer changed done
          obtain ⟨grown, stored, done⟩ := ok_of_bind done
          obtain ⟨-, rfl⟩ := Prod.mk.inj (Except.ok.inj done)
          exact without.insert object stored
  | clear => exact WellFormed.clear registry
  | assign target source => exact formed.assign target source
  | step handle step =>
      exact formed.editPayload handle fun _ document => Payload.perform_isObject document step
  | batch handle steps =>
      exact formed.editPayload handle fun _ document => Payload.performAll_isObject document steps
  | commandStep handle step =>
      exact formed.edit handle fun _ before =>
        before.editCommand fun _ document => Payload.perform_isObject document step

/-- No run of operations stores anything ill-formed. -/
theorem performAll (formed : registry.WellFormed) (operations : List Operation) :
    (registry.performAll operations).2.WellFormed := by
  induction operations generalizing registry with
  | nil => exact formed
  | cons operation operations ih => exact ih (formed.perform operation)

end WellFormed

end Registry

end PayloadExchange
