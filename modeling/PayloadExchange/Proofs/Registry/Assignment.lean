import PayloadExchange.Proofs.Registry.DeadHandles
import PayloadExchange.Proofs.Registry.Carriers
import PayloadExchange.Proofs.Registry.Identity

/-! # Copies of payloads

A copy replaces the payload behind one handle by that behind another, which is looked up first.
Nothing ties the two objects together afterwards: an operation has a part in what is behind a
handle only if it edits, replaces or removes just that, and a run of operations that do not leaves
it as it was.
-/

namespace PayloadExchange.Registry

/-- The operation may change or remove what is behind the handle. -/
def Operation.Reworks (handle : Handle) : Operation → Prop
  | clear => True
  | delete own | take own | move own | step own _ | commandStep own _ | batch own _
  | assign own _ => own = handle
  | create _ | insert _ | kind _ | read _ | dump _ | count | isEmpty | config | leakCheck
  | interface _ | operation _ | commandPayload _ | equal .. => False

section

variable {registry : Registry} {handle : Handle}

theorem getElem?_entries_store (built : Except Fault Object)
    (other : ∀ fresh, (registry.changing do
      let (handle, changed) ← registry.insert (← built)
      return (.handle handle, changed)).1 = .ok (.handle fresh) → fresh ≠ handle) :
    (registry.changing do
      let (handle, changed) ← registry.insert (← built)
      return (.handle handle, changed)).2.entries[handle]? = registry.entries[handle]? := by
  cases built with
  | error fault => rfl
  | ok object =>
      cases stored : registry.insert object with
      | error fault => simp [changing, stored, bind, Except.bind]
      | ok grown =>
          simp only [changing, stored, bind, Except.bind, pure, Except.pure] at other ⊢
          rw [(getElem?_entries_insert stored handle).2, if_neg (other grown.1 rfl)]

theorem getElem?_entries_move {own : Handle} (apart : own ≠ handle)
    (other : .issued handle ∉ (Operation.move own).events (registry.perform (.move own)).1) :
    (registry.perform (.move own)).2.entries[handle]? = registry.entries[handle]? := by
  simp only [perform] at other ⊢
  cases taken : registry.take own with
  | error fault => rfl
  | ok found =>
      have spared := getElem?_entries_take taken handle
      rw [if_neg apart] at spared
      rw [taken] at other
      rw [← spared]
      refine getElem?_entries_store (.ok found.1) fun fresh answered same => ?_
      rw [← same] at other
      simp only [bind, Except.bind] at answered other
      simp [answered, Operation.events] at other

/-- An operation that neither reworks an object nor issues its handle leaves it as it is. -/
theorem perform_spares {operation : Operation} (spared : ¬ operation.Reworks handle)
    (single : .issued handle ∉ operation.events (registry.perform operation).1) :
    (registry.perform operation).2.entries[handle]? = registry.entries[handle]? := by
  have elsewhere (isLocal : operation.isLocal = true) (unnamed : handle ∉ operation.names) :=
    (Operation.confined isLocal).outside registry handle unnamed
  cases operation with
  | clear => exact absurd trivial spared
  | kind | read | dump | count | isEmpty | config | leakCheck | interface | operation
  | commandPayload | equal => rfl
  | create draft | insert parts =>
      refine getElem?_entries_store _ fun fresh answered same => single ?_
      rw [perform, answered, same]
      exact List.mem_cons_self
  | delete own | take own | step own step | commandStep own step | batch own steps =>
      exact elsewhere rfl fun named => spared (List.mem_singleton.1 named).symm
  | move own => exact getElem?_entries_move spared single
  | assign target source =>
      -- The handle may be named here all the same, as that of the source.
      rw [perform, Registry.assign]
      cases registry.lookup source with
      | error fault => rfl
      | ok object => exact (getElem?_entries_edit ..).trans (if_neg spared)

theorem performAll_spares {operations : List Operation}
    (spared : ∀ operation ∈ operations, ¬ operation.Reworks handle)
    (single : .issued handle ∉ history operations (registry.performAll operations).1) :
    (registry.performAll operations).2.entries[handle]? = registry.entries[handle]? := by
  induction operations generalizing registry with
  | nil => rfl
  | cons operation operations ih =>
      rw [performAll_cons] at single ⊢
      simp only [history, List.zipWith_cons_cons, List.flatten_cons, List.mem_append, not_or]
        at single
      obtain ⟨first, rest⟩ := single
      have later : ∀ next ∈ operations, ¬ next.Reworks handle :=
        fun next member => spared next (List.mem_cons_of_mem operation member)
      exact (ih later rest).trans (perform_spares (spared operation List.mem_cons_self) first)

end

/-- What a copy between live objects comes to. -/
structure Copied (registry : Registry) (target source : Handle) (before object : Object)
    (after : Registry) : Prop where
  replaced : registry.PayloadReplaced after target before object.payload
  original : after.lookup source = .ok object
  /-- To copy a payload where it is changes nothing. -/
  own : target = source → after = registry
  /-- A second copy changes nothing further. -/
  again : after.perform (.assign target source) = (.ok .done, after)
  /-- A copy of the copy is as good as a copy of the original. -/
  onward : ∀ third ∈ registry.liveHandles,
    let ofCopy := after.perform (.assign third target)
    let ofOriginal := registry.perform (.assign third source)
    ofCopy.1 = .ok .done ∧ ofOriginal.1 = .ok .done ∧
      ofCopy.2.lookup third = ofOriginal.2.lookup third

section

variable {registry : Registry} {target source : Handle} {before object : Object}

theorem entries_original_copied (stored : registry.entries[source]? = some object) :
    (registry.withPayload target object.payload).entries[source]? = some object := by
  rw [getElem?_entries_withPayload, stored]
  split
  · rw [Option.map_some, object.withPayload_payload]
  · rfl

variable (live : registry.entries[target]? = some before)
include live

theorem perform_assign_of_live (stored : registry.entries[source]? = some object) :
    registry.perform (.assign target source)
      = (.ok .done, registry.withPayload target object.payload) := by
  rw [perform, assign_of_live live stored]
  rfl

theorem perform_assign_onward {third : Handle} {other : Object} (payload : Payload)
    (known : registry.entries[third]? = some other) :
    ((registry.withPayload target payload).perform (.assign third target)).1 = .ok .done ∧
      ((registry.withPayload target payload).perform (.assign third target)).2.lookup third
        = .ok (other.withPayload payload) := by
  have copy := entries_withPayload live payload
  -- The third object may be the copy itself, and then it has the payload already.
  have found : ∃ here, (registry.withPayload target payload).entries[third]? = some here ∧
      here.withPayload payload = other.withPayload payload := by
    rw [getElem?_entries_withPayload, known]
    split
    · exact ⟨_, rfl, other.withPayload_withPayload _ _⟩
    · exact ⟨_, rfl, rfl⟩
  obtain ⟨here, held, same⟩ := found
  rw [perform_assign_of_live held copy]
  refine ⟨rfl, lookup_eq_ok_iff.2 ?_⟩
  rw [entries_withPayload held, Object.payload_withPayload, same]

theorem copied_of_live (stored : registry.entries[source]? = some object) :
    registry.Copied target source before object (registry.perform (.assign target source)).2 := by
  rw [perform_assign_of_live live stored]
  have kept : (registry.withPayload target object.payload).entries[source]? = some object :=
    entries_original_copied stored
  refine ⟨payloadReplaced live object.payload, lookup_eq_ok_iff.2 kept, ?_, ?_, ?_⟩
  · rintro rfl
    exact withPayload_self stored
  · have copy := entries_withPayload live object.payload
    rw [perform_assign_of_live copy kept, withPayload_withPayload]
  · intro third member
    obtain ⟨other, found⟩ := mem_liveHandles.1 member
    have known := lookup_eq_ok_iff.1 found
    obtain ⟨done, copy⟩ := perform_assign_onward live object.payload known
    have direct := perform_assign_of_live known stored
    refine ⟨done, congrArg Prod.fst direct, ?_⟩
    rw [copy, direct]
    exact (lookup_eq_ok_iff.2 (entries_withPayload known object.payload)).symm

end

/-- A copy between live objects of whichever kinds succeeds and replaces the payload of the target
    by that of the source, and nothing else; it may be repeated, taken on to a third object, or have
    one object for both. Whatever is done afterwards, short of reworking an object itself or of
    issuing its handle again, leaves that object as the copy left it; and no handle is issued again
    while the numbers last. If the source is dead it is reported, and otherwise the target if that
    is, and then nothing has changed. -/
theorem assign_copies_payload :
    (∀ (registry : Registry) (target source : Handle) (before object : Object),
      registry.lookup target = .ok before → registry.lookup source = .ok object →
      let copied := registry.perform (.assign target source)
      copied.1 = .ok .done ∧ registry.Copied target source before object copied.2) ∧
    (∀ (config : Config) (earlier later : List Operation) (target source handle : Handle),
      let past := (empty config).performAll earlier
      let copied := past.2.perform (.assign target source)
      let present := copied.2.performAll later
      let events := history earlier past.1
      let further := history later present.1
      handle ∈ copied.2.liveHandles → (∀ operation ∈ later, ¬ operation.Reworks handle) →
      insertions (events ++ further) ≤ 18446744073709551615 ∨ .issued handle ∉ further →
      present.2.lookup handle = copied.2.lookup handle) ∧
    (∀ (registry : Registry) (target source : Handle),
      (source ∉ registry.liveHandles →
        registry.perform (.assign target source) = (.error (.deadHandle source), registry)) ∧
      (source ∈ registry.liveHandles → target ∉ registry.liveHandles →
        registry.perform (.assign target source) = (.error (.deadHandle target), registry))) ∧
    ∀ handle, (Fault.deadHandle handle).report
      = ⟨.invalidArgument, "handle " ++ toString handle.toNat ++ " is invalid"⟩ := by
  refine ⟨?_, ?_, ?_, fun _ => rfl⟩
  · intro registry target source before object found given copied
    rw [lookup_eq_ok_iff] at found given
    exact ⟨congrArg Prod.fst (perform_assign_of_live found given), copied_of_live found given⟩
  · intro config earlier later target source handle past copied present events further known spared
      once
    have toPast : Course (.empty config) events past.2 := Course.start.performAll earlier
    have toCopied : Course (.empty config) events copied.2 := toPast.assign target source
    have toPresent : Course copied.2 further present.2 := Course.start.performAll later
    have single : .issued handle ∉ further :=
      once.elim (toCopied.not_reissued toPresent (mem_liveHandles_iff_mem.1 known)) id
    exact lookup_congr (performAll_spares spared single)
  · intro registry target source
    refine ⟨fun dead => perform_of_dead dead nofun ⟨[], [target], rfl, nofun⟩, ?_⟩
    intro live dead
    refine perform_of_dead dead nofun ⟨[source], [], rfl, fun other member => ?_⟩
    rwa [List.mem_singleton.1 member]

/-- A payload is copied to a command and from there to itself. The command keeps it when the
    original is emptied, broken off on and copied to in turn; and neither of two dead handles is
    copied from or to. -/
theorem copy_outlives_original :
    let earlier : List Operation :=
      [.insert { args := [[7]] }, .insert { args := [[8], [9]], names := some ("a", "b") },
        .insert {}]
    let later : List Operation :=
      [.step 1 .clear, .batch 1 [.push [0], .abort "stop"], .assign 1 2, .delete 3, .move 1]
    let past := (empty {}).performAll earlier
    let copied := past.2.perform (.assign 2 1)
    let command : Object := .command ⟨"a", "b", { args := [[7]] }⟩
    past.2.lookup 2 = .ok (.command ⟨"a", "b", { args := [[8], [9]] }⟩) ∧
      past.2.lookup 1 = .ok (.data { args := [[7]] }) ∧ copied.1 = .ok .done ∧
      past.2.Copied 2 1 (.command ⟨"a", "b", { args := [[8], [9]] }⟩)
        (.data { args := [[7]] }) copied.2 ∧
      copied.2.lookup 2 = .ok command ∧ (copied.2.performAll later).2.lookup 2 = .ok command ∧
      past.2.perform (.assign 4 5) = (.error (.deadHandle 5), past.2) ∧
      past.2.perform (.assign 4 1) = (.error (.deadHandle 4), past.2) := by
  intro earlier later past copied command
  obtain ⟨copies, keeps, refuses, -⟩ := assign_copies_payload
  have target : past.2.lookup 2 = .ok (.command ⟨"a", "b", { args := [[8], [9]] }⟩) := rfl
  have source : past.2.lookup 1 = .ok (.data { args := [[7]] }) := rfl
  obtain ⟨done, result⟩ := copies past.2 2 1 _ _ target source
  have stored : copied.2.lookup 2 = .ok command := rfl
  have kept := keeps {} earlier later 2 1 2 (mem_liveHandles.2 ⟨_, stored⟩)
    (by simp [later, Operation.Reworks]) (.inl (by decide +kernel))
  have known : (1 : Handle) ∈ past.2.liveHandles := mem_liveHandles.2 ⟨_, source⟩
  exact ⟨target, source, done, result, stored, kept.trans stored,
    (refuses past.2 4 5).1 (by decide +kernel), (refuses past.2 4 1).2 known (by decide +kernel)⟩

end PayloadExchange.Registry
