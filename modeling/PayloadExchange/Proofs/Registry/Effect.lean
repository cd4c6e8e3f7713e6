import PayloadExchange.Registry.Operation

/-! # What an operation does to a registry

Twenty operations change a registry in only a few ways. `Effect` lists these ways, with the
lookup or the insertion behind each, and `perform_effect` says that there are no others. What
holds in every reachable registry is proved from this list.
-/

namespace PayloadExchange.Registry

/-- The handle that an answer hands out, if it does. -/
def issuedBy : Except Fault Answer → Option Handle
  | .ok (.handle handle) => some handle
  | _ => none

/-- One change of a registry, beside the answer that comes with it. An edit leaves the kind
    and the names of its object, and only an insertion hands out a handle. -/
inductive Effect (registry : Registry) : Except Fault Answer → Registry → Prop where
  | nothing {answer} (silent : issuedBy answer = none) : Effect registry answer registry
  | edited {answer handle object} (payload : Payload) (silent : issuedBy answer = none)
      (live : registry.entries[handle]? = some object) :
      Effect registry answer
        { registry with entries := registry.entries.insert handle (object.withPayload payload) }
  | removed {answer handle object without} (silent : issuedBy answer = none)
      (taken : registry.take handle = .ok (object, without)) : Effect registry answer without
  | cleared : Effect registry (.ok (.count registry.count)) registry.clear.2
  | inserted {object fresh grown} (stored : registry.insert object = .ok (fresh, grown)) :
      Effect registry (.ok (.handle fresh)) grown
  | moved {handle object without fresh grown}
      (taken : registry.take handle = .ok (object, without))
      (stored : without.insert object = .ok (fresh, grown)) :
      Effect registry (.ok (.handle fresh)) grown

theorem issuedBy_map {α : Type} (result : Except Fault α) (wrap : α → Answer)
    (plain : ∀ value, issuedBy (.ok (wrap value)) = none) : issuedBy (wrap <$> result) = none := by
  cases result with
  | error fault => rfl
  | ok value => exact plain value

theorem edit_effect {α : Type} (registry : Registry) (handle : Handle)
    (change : Object → Except Fault α × Object) (wrap : α → Answer)
    (plain : ∀ value, issuedBy (.ok (wrap value)) = none)
    (kept : ∀ object, ∃ payload, (change object).2 = object.withPayload payload) :
    Effect registry (wrap <$> (registry.edit handle change).1)
      (registry.edit handle change).2 := by
  have silent := issuedBy_map (registry.edit handle change).1 wrap plain
  revert silent
  unfold edit
  cases live : registry.entries[handle]? with
  | none => exact fun silent => .nothing silent
  | some object =>
      obtain ⟨payload, same⟩ := kept object
      simp only [same]
      exact fun silent => .edited payload silent live

theorem editPayload_effect {α : Type} (registry : Registry) (handle : Handle)
    (change : Payload → Except Fault α × Payload) (wrap : α → Answer)
    (plain : ∀ value, issuedBy (.ok (wrap value)) = none) :
    Effect registry (wrap <$> (registry.editPayload handle change).1)
      (registry.editPayload handle change).2 :=
  edit_effect registry handle _ wrap plain fun _ => ⟨_, rfl⟩

theorem editCommand_kept {α : Type} (object : Object)
    (change : Payload → Except Fault α × Payload) :
    ∃ payload, (object.editCommand change).2 = object.withPayload payload := by
  cases object with
  | data payload => exact ⟨payload, rfl⟩
  | command named => exact ⟨_, rfl⟩

theorem insert_effect (registry : Registry) (object : Except Fault Object) :
    let result := registry.changing do
      let (handle, changed) ← registry.insert (← object)
      return (.handle handle, changed)
    Effect registry result.1 result.2 := by
  cases object with
  | error fault => exact .nothing rfl
  | ok object =>
      cases stored : registry.insert object with
      | error fault => simpa [changing, stored, bind, Except.bind] using .nothing rfl
      | ok grown => simpa [changing, stored, bind, Except.bind] using .inserted stored

/-- Every operation has one of the listed effects. -/
theorem perform_effect (registry : Registry) (operation : Operation) :
    Effect registry (registry.perform operation).1 (registry.perform operation).2 := by
  cases operation with
  | create draft => exact insert_effect registry draft.build
  | insert parts => exact insert_effect registry parts.build
  | kind | count | isEmpty | config => exact .nothing rfl
  | read | dump | leakCheck | interface | operation | commandPayload =>
      exact .nothing (issuedBy_map _ _ fun _ => rfl)
  | equal first second =>
      refine .nothing ?_
      simp only [perform, reading]
      cases registry.lookup first <;> cases registry.lookup second <;> rfl
  | clear => exact .cleared
  | delete handle =>
      simp only [perform, delete]
      cases taken : registry.take handle with
      | error fault => exact .nothing rfl
      | ok found => exact .removed rfl taken
  | take handle =>
      simp only [perform]
      cases taken : registry.take handle with
      | error fault => exact .nothing rfl
      | ok found => exact .removed rfl taken
  | move handle =>
      simp only [perform]
      cases taken : registry.take handle with
      | error fault => exact .nothing rfl
      | ok found =>
          cases stored : found.2.insert found.1 with
          | error fault =>
              simpa [changing, stored, bind, Except.bind] using .removed rfl taken
          | ok grown => simpa [changing, stored, bind, Except.bind] using .moved taken stored
  | assign target source =>
      simp only [perform, assign]
      cases registry.lookup source with
      | error fault => exact .nothing rfl
      | ok object => exact editPayload_effect registry target _ (fun _ => .done) fun _ => rfl
  | step handle step =>
      exact editPayload_effect registry handle (·.perform step) .step fun _ => rfl
  | batch handle steps =>
      exact editPayload_effect registry handle (·.performAll steps) .batch fun _ => rfl
  | commandStep handle step =>
      exact edit_effect registry handle (·.editCommand (·.perform step)) .step (fun _ => rfl)
        fun object => editCommand_kept object _

end PayloadExchange.Registry
