import PayloadExchange.Proofs.Registry.Capacity
import PayloadExchange.Proofs.Registry.DeadHandles
import PayloadExchange.Proofs.Registry.Locking

/-! # Moves between handles

To move an object is to remove it and to store it again right away. A registry that keeps its limit
has room for what was just removed from it, so a move cannot end between the two and lose the
object, not even where the registry was full. What has become of the object before goes with it.
-/

namespace PayloadExchange.Registry

/-- Of an object that is removed from behind its handle, and then stored behind a fresh one. -/
structure Moved (events : List Event) (registry : Registry) (handle : Handle) (object : Object)
    (without : Registry) (fresh : Handle) (after : Registry) : Prop where
  taken : registry.take handle = .ok (object, without)
  stored : without.insert object = .ok (fresh, after)
  inOne : registry.perform (.move handle) = (.ok (.handle fresh), after)
  /-- The fresh number exceeds every number issued before. -/
  beyond : ∀ earlier, .issued earlier ∈ events → earlier < fresh
  found : after.lookup fresh = .ok object
  dead : handle ∉ after.liveHandles
  count : after.count = registry.count
  others : ∀ other, other ≠ handle → other ≠ fresh →
    after.entries[other]? = registry.entries[other]?

section

variable {registry without after : Registry} {handle fresh : Handle} {object : Object}

theorem take_of_live (live : registry.entries[handle]? = some object) :
    registry.take handle
      = .ok (object, { registry with entries := registry.entries.erase handle }) := by
  rw [take, live]

theorem perform_move (taken : registry.take handle = .ok (object, without))
    (stored : without.insert object = .ok (fresh, after)) :
    registry.perform (.move handle) = (.ok (.handle fresh), after) := by
  simp only [perform, taken, changing, stored, bind, Except.bind, pure, Except.pure]

/-- There is room for what was just removed. -/
theorem Within.insert_taken (within : registry.Within)
    (taken : registry.take handle = .ok (object, without)) :
    ∃ fresh after, without.insert object = .ok (fresh, after) := by
  obtain ⟨⟨fresh, after⟩, stored⟩ :=
    within.hasRoom_of_take taken [] without .start nofun object
  exact ⟨fresh, after, stored⟩

theorem count_insert (stored : registry.insert object = .ok (fresh, after))
    (absent : fresh ∉ registry.entries) : after.count = registry.count + 1 := by
  obtain ⟨-, -, rfl⟩ := insert_eq_ok stored
  simp [count, Std.ExtTreeMap.size_insert, absent]

theorem count_insert_taken (taken : registry.take handle = .ok (object, without))
    (stored : without.insert object = .ok (fresh, after)) (absent : fresh ∉ without.entries) :
    after.count = registry.count := by
  obtain ⟨live, rfl⟩ := take_eq_ok taken
  exact (count_insert stored absent).trans (size_entries_erase live)

end

section

variable {config : Config} {events : List Event} {registry : Registry} {handle : Handle}
  {object : Object} (course : Course (.empty config) events registry)
include course

theorem Course.withPayload (live : registry.entries[handle]? = some object) (payload : Payload) :
    Course (.empty config) events (registry.withPayload handle payload) := by
  have edited := course.editPayload handle fun _ => ((.ok () : Except Fault Unit), payload)
  rwa [editPayload_of_live live] at edited

/-- Every live object can be moved while the numbers last. -/
theorem Course.moved (few : insertions events < 18446744073709551615)
    (live : registry.entries[handle]? = some object) :
    ∃ without fresh after, registry.Moved events handle object without fresh after := by
  have within : registry.Within := course.within fun _ => Nat.zero_le _
  have taken := take_of_live live
  obtain ⟨fresh, after, stored⟩ := within.insert_taken taken
  have accounts := course.accounts (Nat.le_of_lt few)
  obtain ⟨same, fewer⟩ := take_shrinks taken
  have shrunk := accounts.numbered.shrink same fewer
  have number : fresh.toNat = insertions events + 1 := (shrunk.insert few stored).1
  have held := fun key => (getElem?_entries_insert stored key).2
  have spared := getElem?_entries_take taken
  have beyond : ∀ earlier, .issued earlier ∈ events → earlier < fresh := by
    intro earlier issued
    have := (accounts.range earlier issued).2
    rw [UInt64.lt_iff_toNat_lt]
    omega
  have apart : fresh ≠ handle := by
    -- The old handle was in use, and the fresh one is not.
    rintro rfl
    exact accounts.numbered.absent number (mem_entries_of_live live)
  refine ⟨_, fresh, after, taken, stored, perform_move taken stored, beyond, ?_, ?_,
    count_insert_taken taken stored (shrunk.absent number), ?_⟩
  · rw [lookup_eq_ok_iff, held, if_pos rfl]
  · rw [mem_liveHandles_iff_mem, Std.ExtTreeMap.mem_iff_isSome_getElem?, held, if_neg apart, spared,
      if_pos rfl]
    nofun
  · intro other old new
    rw [held, if_neg new.symm, spared, if_neg old.symm]

end

theorem Locked.Shows.read_moved {locked : Locked} {events : List Event}
    {registry without after : Registry} {handle fresh : Handle} {object : Object}
    (shown : locked.Shows registry)
    (moved : registry.Moved events handle object without fresh after) :
    (locked.performAll [.move handle, .read fresh, .kind handle]).1
      = [.ok (.handle fresh), .ok (.object object), .ok (.kind .invalid)] := by
  have read : after.perform (.read fresh) = (.ok (.object object), after) := by
    rw [Registry.perform, reading, moved.found]
    rfl
  have kind : after.perform (.kind handle) = (.ok (.kind .invalid), after) := by
    rw [Registry.perform, reading, (disowns_of_dead moved.dead).kind]
  rw [(shown.performAll _).1]
  simp only [Registry.performAll, moved.inOne, read, kind]

/-- A live object is never lost on a move. It is removed with all the steps that were taken on it,
    by whichever ways, and to store it again right away succeeds under any limit, also where the
    registry was full. The fresh number exceeds every number issued before, the old one is dead, and
    all else is as it was; the registry behind its locks tells the same, whatever broke off before.
    A dead handle cannot be moved, and to try changes nothing. -/
theorem move_loses_nothing (config : Config) (operations : List Operation)
    (few : insertions (history operations ((empty config).performAll operations).1)
      < 18446744073709551615) (handle : Handle) :
    let run := (empty config).performAll operations
    let events := history operations run.1
    let locked := ((Locked.empty config).performAll operations).2
    (∀ object, run.2.lookup handle = .ok object →
      (∃ without fresh after, run.2.Moved events handle object without fresh after ∧
        (locked.performAll [.move handle, .read fresh, .kind handle]).1
          = [.ok (.handle fresh), .ok (.object object), .ok (.kind .invalid)]) ∧
      ∀ steps : List (Way × Payload.Step), (∀ step ∈ steps, step.1.Open object.kind step.2) →
        let edited := (takeAll (stepBy handle) run.2 steps).2
        let payload := (takeAll Payload.perform object.payload (steps.map Prod.snd)).2
        ∃ without fresh after,
          edited.Moved events handle (object.withPayload payload) without fresh after) ∧
    (handle ∉ run.2.liveHandles →
      run.2.take handle = .error (.deadHandle handle) ∧
        run.2.perform (.move handle) = (.error (.deadHandle handle), run.2) ∧
        (locked.perform (.move handle)).1 = .error (.deadHandle handle)) := by
  intro run events locked
  have course : Course (.empty config) events run.2 := Course.start.performAll operations
  have shown : locked.Shows run.2 := ((Locked.empty_shows config).performAll operations).2
  refine ⟨?_, ?_⟩
  · intro object stored
    have live := lookup_eq_ok_iff.1 stored
    obtain ⟨without, fresh, after, moved⟩ := course.moved few live
    refine ⟨⟨without, fresh, after, moved, shown.read_moved moved⟩, ?_⟩
    intro steps admitted edited payload
    have same : edited = run.2.withPayload handle payload :=
      congrArg Prod.snd (takeAll_stepBy live steps admitted)
    rw [same]
    exact (course.withPayload live payload).moved few (entries_withPayload live payload)
  · intro dead
    have refused : run.2.perform (.move handle) = (.error (.deadHandle handle), run.2) :=
      perform_of_dead dead nofun ⟨[], [], rfl, nofun⟩
    refine ⟨take_of_dead dead, refused, ?_⟩
    rw [(shown.perform (.move handle)).1, refused]

/-- Under a limit of two, with two objects live, a command is moved that has been worked on and
    broken off on. -/
theorem move_within_full_registry :
    let operations : List Operation :=
      [.insert {}, .insert { names := some ("a", "b") }, .insert {}, .step 2 (.push [7]),
        .batch 2 [.push [8], .abort "stop"]]
    let run := (empty ⟨2⟩).performAll operations
    let events := history operations run.1
    let command : Object := .command ⟨"a", "b", { args := [[7], [8]] }⟩
    insertions events < 18446744073709551615 ∧ run.2.isFull = true ∧
      run.2.lookup 2 = .ok command ∧
      (∃ without fresh after, run.2.Moved events 2 command without fresh after) ∧
      run.2.perform (.move 3) = (.error (.deadHandle 3), run.2) ∧
      (run.2.performAll [.move 2, .read 3]).1 = [.ok (.handle 3), .ok (.object command)] := by
  intro operations run events command
  have few : insertions events < 18446744073709551615 := by decide +kernel
  have stored : run.2.lookup 2 = .ok command := rfl
  obtain ⟨⟨without, fresh, after, moved, -⟩, -⟩ :=
    (move_loses_nothing ⟨2⟩ operations few 2).1 command stored
  have dead := (move_loses_nothing ⟨2⟩ operations few 3).2 (by decide +kernel)
  exact ⟨few, by decide +kernel, stored, ⟨without, fresh, after, moved⟩, dead.2.1, rfl⟩

end PayloadExchange.Registry
