import PayloadExchange.Proofs.Registry.Effect

/-! # The course of a registry

What has become of handles is read off a run: which were issued, which were removed, and when
everything was cleared. `Course` ties such a record to the registry that it leads to, whoever
made the changes, and `Course.performAll` says that the runs of operations have one.
-/

namespace PayloadExchange.Registry

/-- What befalls the handles of a registry. -/
inductive Event where
  | issued (handle : Handle)
  | removed (handle : Handle)
  /-- Everything was removed, so many objects. -/
  | cleared (count : Nat)
  deriving DecidableEq

/-- What an operation and its answer tell about handles. A move that finds its object and then
    no room for it is still a removal. -/
def Operation.events : Operation → Except Fault Answer → List Event
  | create _, .ok (.handle fresh) | insert _, .ok (.handle fresh) => [.issued fresh]
  | delete handle, .ok _ | take handle, .ok _ => [.removed handle]
  | move handle, .ok (.handle fresh) => [.removed handle, .issued fresh]
  | move handle, .error (.registryFull _) => [.removed handle]
  | clear, .ok (.count removed) => [.cleared removed]
  | _, _ => []

/-- What a run of operations and their answers tell about handles. -/
def history (operations : List Operation) (answers : List (Except Fault Answer)) : List Event :=
  (operations.zipWith Operation.events answers).flatten

/-- The events that lead from one registry to another. Edits of payloads are none. -/
inductive Course (start : Registry) : List Event → Registry → Prop where
  | start : Course start [] start
  | edited {events registry handle object} (payload : Payload) :
      Course start events registry → registry.entries[handle]? = some object →
      Course start events
        { registry with entries := registry.entries.insert handle (object.withPayload payload) }
  | issued {events registry object fresh grown} :
      Course start events registry → registry.insert object = .ok (fresh, grown) →
      Course start (events ++ [.issued fresh]) grown
  | removed {events registry handle object without} :
      Course start events registry → registry.take handle = .ok (object, without) →
      Course start (events ++ [.removed handle]) without
  | cleared {events registry} :
      Course start events registry →
      Course start (events ++ [.cleared registry.count]) registry.clear.2

theorem insert_eq_ok {registry grown : Registry} {object : Object} {fresh : Handle}
    (stored : registry.insert object = .ok (fresh, grown)) :
    registry.isFull = false ∧ fresh = registry.issue ∧ grown =
      { registry with next := fresh + 1, entries := registry.entries.insert fresh object } := by
  unfold insert at stored
  split at stored
  · cases stored
  · next room =>
      simp only [Except.ok.injEq, Prod.mk.injEq] at stored
      obtain ⟨rfl, rfl⟩ := stored
      exact ⟨Bool.eq_false_iff.2 room, rfl, rfl⟩

theorem insert_eq_error {registry : Registry} {object : Object} {fault : Fault}
    (refused : registry.insert object = .error fault) :
    registry.isFull = true ∧ fault = .registryFull registry.config.maxLiveHandles := by
  unfold insert at refused
  split at refused
  · next full => exact ⟨full, (Except.error.inj refused).symm⟩
  · cases refused

theorem take_eq_ok {registry without : Registry} {handle : Handle} {object : Object}
    (taken : registry.take handle = .ok (object, without)) :
    registry.entries[handle]? = some object ∧
      without = { registry with entries := registry.entries.erase handle } := by
  unfold take at taken
  split at taken
  · next found live =>
      simp only [Except.ok.injEq, Prod.mk.injEq] at taken
      obtain ⟨rfl, rfl⟩ := taken
      exact ⟨live, rfl⟩
  · cases taken

theorem take_eq_error {registry : Registry} {handle : Handle} {fault : Fault}
    (refused : registry.take handle = .error fault) :
    registry.entries[handle]? = none ∧ fault = .deadHandle handle := by
  unfold take at refused
  split at refused
  · cases refused
  · next dead => exact ⟨dead, (Except.error.inj refused).symm⟩

theorem mem_entries_of_live {registry : Registry} {handle : Handle} {object : Object}
    (live : registry.entries[handle]? = some object) : handle ∈ registry.entries := by
  rw [Std.ExtTreeMap.mem_iff_isSome_getElem?, live, Option.isSome_some]

theorem size_entries_edited {registry : Registry} {handle : Handle} {object : Object}
    (live : registry.entries[handle]? = some object) (changed : Object) :
    (registry.entries.insert handle changed).size = registry.entries.size := by
  simp [Std.ExtTreeMap.size_insert, mem_entries_of_live live]

theorem size_entries_erase {registry : Registry} {handle : Handle} {object : Object}
    (live : registry.entries[handle]? = some object) :
    (registry.entries.erase handle).size + 1 = registry.entries.size := by
  have known := mem_entries_of_live live
  have positive : registry.entries.size ≠ 0 := by
    rw [ne_eq, ← Std.ExtTreeMap.eq_empty_iff_size_eq_zero]
    rintro empty
    simp [empty] at known
  have size : (registry.entries.erase handle).size = registry.entries.size - 1 := by
    simp [Std.ExtTreeMap.size_erase, known]
  omega

theorem delete_eq_ok {registry without : Registry} {handle : Handle}
    (deleted : registry.delete handle = .ok without) :
    ∃ object, registry.take handle = .ok (object, without) := by
  unfold delete at deleted
  cases taken : registry.take handle with
  | error fault =>
      rw [taken] at deleted
      cases deleted
  | ok found =>
      rw [taken] at deleted
      obtain rfl := Except.ok.inj deleted
      exact ⟨found.1, rfl⟩

namespace Course

variable {start registry : Registry} {events : List Event}

theorem edit {α : Type} (course : Course start events registry) (handle : Handle)
    {change : Object → Except Fault α × Object}
    (kept : ∀ object, ∃ payload, (change object).2 = object.withPayload payload) :
    Course start events (registry.edit handle change).2 := by
  unfold Registry.edit
  cases live : registry.entries[handle]? with
  | none => exact course
  | some object =>
      obtain ⟨payload, same⟩ := kept object
      simp only [same]
      exact course.edited payload live

theorem editPayload {α : Type} (course : Course start events registry) (handle : Handle)
    (change : Payload → Except Fault α × Payload) :
    Course start events (registry.editPayload handle change).2 :=
  course.edit handle fun _ => ⟨_, rfl⟩

theorem assign (course : Course start events registry) (target source : Handle) :
    Course start events (registry.assign target source).2 := by
  unfold Registry.assign
  cases registry.lookup source with
  | ok object => exact course.editPayload target _
  | error fault => exact course

/-- Storing what was built, under a record that notes the new handle and no failure. -/
theorem store (course : Course start events registry) {object : Except Fault Object}
    {note : Except Fault Answer → List Event}
    (stored : ∀ fresh, note (.ok (.handle fresh)) = [.issued fresh])
    (refused : ∀ fault, note (.error fault) = []) :
    let result := registry.changing do
      let (handle, changed) ← registry.insert (← object)
      return (.handle handle, changed)
    Course start (events ++ note result.1) result.2 := by
  cases object with
  | error fault => simpa [changing, bind, Except.bind, refused] using course
  | ok object =>
      cases inserted : registry.insert object with
      | error fault => simpa [changing, inserted, bind, Except.bind, refused] using course
      | ok grown =>
          simpa [changing, inserted, bind, Except.bind, pure, Except.pure, stored]
            using course.issued inserted

theorem perform (course : Course start events registry) (operation : Operation) :
    Course start (events ++ operation.events (registry.perform operation).1)
      (registry.perform operation).2 := by
  have quiet {changed : Registry} (further : Course start events changed) :
      Course start (events ++ []) changed := by rwa [List.append_nil]
  cases operation with
  | create draft => exact course.store (fun _ => rfl) fun _ => rfl
  | insert parts => exact course.store (fun _ => rfl) fun _ => rfl
  | kind | read | dump | count | isEmpty | config | leakCheck | interface | operation
  | commandPayload | equal => exact quiet course
  | assign target source => exact quiet (course.assign target source)
  | step handle step => exact quiet (course.editPayload handle (·.perform step))
  | batch handle steps => exact quiet (course.editPayload handle (·.performAll steps))
  | commandStep handle step =>
      exact quiet (course.edit handle fun object => editCommand_kept object (·.perform step))
  | clear => exact course.cleared
  | delete handle =>
      simp only [Registry.perform, delete]
      cases taken : registry.take handle with
      | error fault => exact quiet course
      | ok found => exact course.removed taken
  | take handle =>
      simp only [Registry.perform]
      cases taken : registry.take handle with
      | error fault => exact quiet course
      | ok found => exact course.removed taken
  | move handle =>
      simp only [Registry.perform]
      cases taken : registry.take handle with
      | error fault =>
          -- The events of a failed move depend on its fault: here nothing was removed.
          obtain ⟨-, rfl⟩ := take_eq_error taken
          exact quiet course
      | ok found =>
          -- The removal stands whether or not there is room for the object again.
          have without := course.removed taken
          cases stored : found.2.insert found.1 with
          | error fault =>
              obtain ⟨-, rfl⟩ := insert_eq_error stored
              simpa [changing, stored, bind, Except.bind, Operation.events] using without
          | ok grown =>
              have further := without.issued stored
              rw [List.append_assoc] at further
              simpa [changing, stored, bind, Except.bind, pure, Except.pure, Operation.events]
                using further

end Course

/-- Runs have a course: their history. -/
theorem Course.performAll {start registry : Registry} {events : List Event}
    (course : Course start events registry) (operations : List Operation) :
    Course start (events ++ history operations (registry.performAll operations).1)
      (registry.performAll operations).2 := by
  -- The rest of the run goes on from the course that the first operation has extended.
  induction operations generalizing registry events with
  | nil => simpa [history, Registry.performAll] using course
  | cons operation operations ih =>
      simpa [history, Registry.performAll, List.append_assoc] using ih (course.perform operation)

end PayloadExchange.Registry
