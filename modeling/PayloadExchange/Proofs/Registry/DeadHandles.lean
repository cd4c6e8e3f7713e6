import PayloadExchange.Proofs.Registry.Accounting

/-! # Dead handles

Behind a dead handle there is nothing to work on. Whatever is asked for under it ends in one
fault, before the caller's own part in the work begins, and leaves the registry as it is.
-/

namespace PayloadExchange.Registry

/-- The lookups come to this handle: those before it find their objects. -/
def Reaches (registry : Registry) (names : List Handle) (handle : Handle) : Prop :=
  ∃ before after, names = before ++ handle :: after ∧ ∀ other ∈ before, other ∈ registry.liveHandles

/-- Nothing is behind the handle, and the registry says so in one way, whatever the caller
    would have done with an object. -/
structure Disowns (registry : Registry) (handle : Handle) : Prop where
  kind : registry.kindOf handle = .invalid
  read : ∀ {α : Type} (look : Object → Except Fault α),
    registry.lookup handle >>= look = .error (.deadHandle handle)
  readCommand : ∀ {α : Type} (look : Command → Except Fault α),
    registry.lookupCommand handle >>= look = .error (.deadHandle handle)
  edit : ∀ {α : Type} (change : Object → Except Fault α × Object),
    registry.edit handle change = (.error (.deadHandle handle), registry)
  perform : ∀ operation : Operation, operation ≠ .kind handle →
    registry.Reaches operation.names handle →
    registry.perform operation = (.error (.deadHandle handle), registry)

section

variable {registry : Registry} {handle : Handle}

theorem Reaches.single {named : Handle} (reaches : registry.Reaches [named] handle) :
    named = handle := by
  obtain ⟨before, after, shape, -⟩ := reaches
  cases before with
  | nil => exact (List.cons.inj shape).1
  | cons first before => simp at shape

theorem Reaches.pair {first second : Handle}
    (reaches : registry.Reaches [first, second] handle) :
    first = handle ∨ first ∈ registry.liveHandles ∧ second = handle := by
  obtain ⟨before, after, shape, live⟩ := reaches
  cases before with
  | nil => exact .inl (List.cons.inj shape).1
  | cons other before =>
      obtain ⟨rfl, rest⟩ := List.cons.inj shape
      have onward : registry.Reaches [second] handle :=
        ⟨before, after, rest, fun key member => live key (List.mem_cons_of_mem first member)⟩
      exact .inr ⟨live first List.mem_cons_self, onward.single⟩

variable (dead : handle ∉ registry.liveHandles)
include dead

theorem getElem?_entries_of_dead : registry.entries[handle]? = none := by
  rw [mem_liveHandles_iff_mem] at dead
  exact Std.ExtTreeMap.getElem?_eq_none dead

theorem lookup_of_dead : registry.lookup handle = .error (.deadHandle handle) := by
  rw [lookup, getElem?_entries_of_dead dead]

theorem take_of_dead : registry.take handle = .error (.deadHandle handle) := by
  rw [take, getElem?_entries_of_dead dead]

theorem edit_of_dead {α : Type} (change : Object → Except Fault α × Object) :
    registry.edit handle change = (.error (.deadHandle handle), registry) := by
  rw [edit, getElem?_entries_of_dead dead]

theorem editPayload_of_dead {α : Type} (change : Payload → Except Fault α × Payload) :
    registry.editPayload handle change = (.error (.deadHandle handle), registry) :=
  edit_of_dead dead (·.edit change)

theorem assign_to_dead {source : Handle} (live : source ∈ registry.liveHandles) :
    registry.assign handle source = (.error (.deadHandle handle), registry) := by
  obtain ⟨object, found⟩ := mem_liveHandles.1 live
  rw [assign, found]
  exact editPayload_of_dead dead _

theorem assign_from_dead (target : Handle) :
    registry.assign target handle = (.error (.deadHandle handle), registry) := by
  rw [assign, lookup_of_dead dead]

/-- Operations end at the first dead handle that they come to. -/
theorem perform_of_dead {operation : Operation} (asks : operation ≠ .kind handle)
    (reaches : registry.Reaches operation.names handle) :
    registry.perform operation = (.error (.deadHandle handle), registry) := by
  cases operation with
  | create | insert | clear | count | isEmpty | config | leakCheck =>
      -- These name no handle that could be reached.
      obtain ⟨before, after, shape, -⟩ := reaches
      simp [Operation.names] at shape
  | kind named =>
      obtain rfl := reaches.single
      exact absurd rfl asks
  | read named | interface named | operation named | commandPayload named =>
      obtain rfl := reaches.single
      simp only [perform, reading, lookupCommand, lookup_of_dead dead]
      rfl
  | dump named =>
      obtain rfl := reaches.single
      simp only [perform, reading, Registry.dump, lookup_of_dead dead]
      rfl
  | delete named =>
      obtain rfl := reaches.single
      simp only [perform, changing, delete, take_of_dead dead]
      rfl
  | take named =>
      obtain rfl := reaches.single
      simp only [perform, changing, take_of_dead dead]
      rfl
  | move named =>
      obtain rfl := reaches.single
      simp only [perform, take_of_dead dead]
  | step named step | batch named steps | commandStep named step =>
      obtain rfl := reaches.single
      simp only [perform, editPayload, edit_of_dead dead]
      rfl
  | assign target source =>
      rcases reaches.pair with rfl | ⟨live, rfl⟩
      · simp only [perform, assign_from_dead dead]
        rfl
      · simp only [perform, assign_to_dead dead live]
        rfl
  | equal first second =>
      rcases reaches.pair with rfl | ⟨live, rfl⟩
      · simp only [perform, reading, lookup_of_dead dead]
        rfl
      · obtain ⟨object, found⟩ := mem_liveHandles.1 live
        simp only [perform, reading, lookup_of_dead dead, found]
        rfl

theorem disowns_of_dead : registry.Disowns handle where
  kind := by rw [kindOf, getElem?_entries_of_dead dead]
  read := by
    intro α look
    rw [lookup_of_dead dead]
    rfl
  readCommand := by
    intro α look
    rw [lookupCommand, lookup_of_dead dead]
    rfl
  edit := edit_of_dead dead
  perform := fun operation asks reaches => perform_of_dead dead asks reaches

end

/-- The handle is zero, or it was withdrawn earlier on, or it has not been issued to this day. -/
def Gone (earlier later : List Event) (handle : Handle) : Prop :=
  handle = 0 ∨ Retired earlier handle ∨ .issued handle ∉ earlier ++ later

theorem Accounts.dead_of_gone {earlier later : List Event} {registry : Registry}
    (accounts : Accounts (earlier ++ later) registry) {handle : Handle}
    (gone : Gone earlier later handle) : handle ∉ registry.liveHandles := by
  intro live
  rw [mem_liveHandles_iff_mem] at live
  -- What is live was issued and is not retired; each way to be gone denies one of the two.
  obtain ⟨before, after, shape, -⟩ := (accounts.live handle).1 live
  have issued : .issued handle ∈ earlier ++ later := by simp [shape]
  rcases gone with rfl | retired | never
  · exact absurd (accounts.range 0 issued).1 (by decide)
  · exact accounts.retired handle (retired.append later) live
  · exact never issued

end PayloadExchange.Registry
