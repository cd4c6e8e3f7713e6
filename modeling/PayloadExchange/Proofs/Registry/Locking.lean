import PayloadExchange.Proofs.Registry.Carriers
import PayloadExchange.Registry.Locked

/-! # Locks make no difference

The registry behind its locks answers as the registry itself does, whichever of the locks are
poisoned. `Shows` compares what is stored and passes over the locks, and every operation keeps to
it; so nothing that broke off before can be told from the answers.
-/

namespace PayloadExchange

theorem Lock.recover_eq {α : Type} (lock : Lock α) : lock.recover = lock.value := by
  unfold recover acquire
  cases lock.poisoned <;> rfl

namespace Registry

/-- Behind the locks, poisoned or not, there is what the registry stores. -/
structure Locked.Shows (locked : Locked) (registry : Registry) : Prop where
  config : locked.config = registry.config
  next : locked.next = registry.next
  stored : ∀ key : Handle,
    locked.slots.value[key]?.map Lock.value = registry.entries[key]?.map some

/-- The registry behind locks that nobody has poisoned. -/
def behindLocks (registry : Registry) : Locked where
  config := registry.config
  next := registry.next
  slots := { value := registry.entries.map fun _ object => { value := some object } }

theorem behindLocks_shows (registry : Registry) : registry.behindLocks.Shows registry where
  config := rfl
  next := rfl
  stored key := by
    rw [behindLocks, Std.ExtTreeMap.getElem?_map]
    cases registry.entries[key]? <;> rfl

/-- Both answer the same, and what they leave behind is again the same. -/
def Agrees {α : Type} (ours : Except Fault α × Locked) (theirs : Except Fault α × Registry) :
    Prop :=
  ours.1 = theirs.1 ∧ ours.2.Shows theirs.2

theorem Agrees.answering {α : Type} {ours : Except Fault α × Locked}
    {theirs : Except Fault α × Registry} (agree : Agrees ours theirs) (answer : α → Answer) :
    Agrees (Locked.answering answer ours) (answer <$> theirs.1, theirs.2) :=
  ⟨congrArg (answer <$> ·) agree.1, agree.2⟩

theorem Agrees.andThen {α β : Type} {ours : Except Fault α × Locked} {result : Except Fault α}
    {after : Registry} {next : α → Locked → Except Fault β × Locked}
    {theirs : Except Fault β × Registry}
    (each : match result with
      | .ok value => ∀ seen : Locked, seen.Shows after → Agrees (next value seen) theirs
      | .error fault => theirs = (.error fault, after))
    (agree : Agrees ours (result, after)) : Agrees (Locked.andThen ours next) theirs := by
  obtain ⟨found, changed⟩ := ours
  obtain ⟨same, shown⟩ := agree
  obtain rfl : found = result := same
  cases found with
  | ok value => exact each changed shown
  | error fault => exact ⟨(congrArg Prod.fst each).symm, (congrArg Prod.snd each).symm ▸ shown⟩

/-- The same of a change that is nothing if it fails. -/
def Changes {α : Type} (registry : Registry) (ours : Except Fault α × Locked) :
    Except Fault (α × Registry) → Prop
  | .ok (value, changed) => Agrees ours (.ok value, changed)
  | .error fault => Agrees ours (.error fault, registry)

theorem Changes.answering {α : Type} {registry : Registry} {ours : Except Fault α × Locked}
    {theirs : Except Fault (α × Registry)} (changes : registry.Changes ours theirs)
    (answer : α → Answer) :
    Agrees (Locked.answering answer ours) (registry.changing do
      let (value, changed) ← theirs
      return (answer value, changed)) := by
  cases theirs with
  | ok found => exact Agrees.answering changes answer
  | error fault => exact Agrees.answering changes answer

namespace Locked.Shows

variable {α : Type} {locked : Locked} {registry : Registry} {handle : Handle} {object : Object}
  (shown : locked.Shows registry)
include shown

theorem slot_of_live (live : registry.entries[handle]? = some object) :
    ∃ poisoned, locked.slot handle = .ok ⟨some object, poisoned⟩ := by
  have stored := shown.stored handle
  rw [live, Option.map_some, Option.map_eq_some_iff] at stored
  obtain ⟨⟨content, poisoned⟩, held, rfl⟩ := stored
  refine ⟨poisoned, ?_⟩
  rw [slot, Lock.recover_eq, held]

theorem slot_of_dead (dead : registry.entries[handle]? = none) :
    locked.slot handle = .error (.deadHandle handle) := by
  have stored := shown.stored handle
  rw [dead, Option.map_none, Option.map_eq_none_iff] at stored
  rw [slot, Lock.recover_eq, stored]

theorem kindOf (handle : Handle) : locked.kindOf handle = registry.kindOf handle := by
  rw [Locked.kindOf, Registry.kindOf]
  cases live : registry.entries[handle]? with
  | none => rw [shown.slot_of_dead live]
  | some object =>
      obtain ⟨poisoned, held⟩ := shown.slot_of_live live
      rw [held]
      simp only [Lock.recover_eq]

theorem liveHandles : locked.liveHandles = registry.liveHandles := by
  rw [Locked.liveHandles, Lock.recover_eq]
  refine keys_eq_of_mem_iff fun key => ?_
  have stored := congrArg Option.isSome (shown.stored key)
  rw [Option.isSome_map, Option.isSome_map] at stored
  rw [Std.ExtTreeMap.mem_iff_isSome_getElem?, Std.ExtTreeMap.mem_iff_isSome_getElem?, stored]

theorem count : locked.count = registry.count := by
  rw [← registry.length_liveHandles, ← shown.liveHandles, Locked.liveHandles,
    Std.ExtTreeMap.length_keys, Locked.count]

theorem leakCheck : locked.leakCheck = registry.leakCheck := by
  cases live : registry.liveHandles with
  | nil => simp only [Locked.leakCheck, Registry.leakCheck, shown.liveHandles, live]
  | cons first others =>
      simp only [Locked.leakCheck, Registry.leakCheck, shown.liveHandles, live]

theorem issue : locked.issue = registry.issue := by
  rw [Locked.issue, Registry.issue, shown.next]

theorem setSlot (handle : Handle) (object : Object) (poisoned : Bool) :
    (locked.setSlot handle ⟨some object, poisoned⟩).Shows
      { registry with entries := registry.entries.insert handle object } where
  config := shown.config
  next := shown.next
  stored key := by
    simp only [Locked.setSlot, Lock.replace, Lock.recover_eq, Std.ExtTreeMap.getElem?_insert]
    split
    · rfl
    · exact shown.stored key

theorem edit (handle : Handle) (change : Object → Except Fault α × Object) :
    Agrees (locked.edit handle change) (registry.edit handle change) := by
  rw [Locked.edit, Registry.edit]
  cases live : registry.entries[handle]? with
  | none =>
      rw [shown.slot_of_dead live]
      exact ⟨rfl, shown⟩
  | some object =>
      obtain ⟨poisoned, held⟩ := shown.slot_of_live live
      simp only [held, Lock.hold, Lock.recover_eq]
      exact ⟨rfl, shown.setSlot handle _ _⟩

/-- To look at an object is to edit it and to leave it as it is. -/
theorem look (handle : Handle) (see : Object → Except Fault α) :
    Agrees (locked.look handle see) (registry.lookup handle >>= see, registry) := by
  obtain ⟨same, after⟩ := shown.edit handle fun object => (see object, object)
  cases live : registry.entries[handle]? with
  | none =>
      rw [Registry.edit, live] at same after
      rw [lookup_eq_error_iff.2 ⟨live, rfl⟩]
      exact ⟨same, after⟩
  | some object =>
      rw [Registry.edit, live] at same after
      rw [lookup_eq_ok_iff.2 live]
      exact ⟨same, entries_insert_self live ▸ after⟩

theorem read (handle : Handle) (see : Object → α) :
    Agrees (locked.look handle fun object => .ok (see object))
      (see <$> registry.lookup handle, registry) := by
  have same : (registry.lookup handle >>= fun object => .ok (see object))
      = see <$> registry.lookup handle := by
    cases registry.lookup handle <;> rfl
  exact same ▸ shown.look handle fun object => .ok (see object)

theorem readCommand (handle : Handle) (see : Command → α) (answer : α → Answer) :
    Agrees (answering answer (locked.lookCommand handle see))
      ((fun command => answer (see command)) <$> registry.lookupCommand handle, registry) := by
  have seen := (shown.look handle fun object => see <$> object.asCommand).answering answer
  have same : (answer <$> (registry.lookup handle >>= fun object => see <$> object.asCommand))
      = (fun command => answer (see command)) <$> registry.lookupCommand handle := by
    rw [lookupCommand]
    rcases registry.lookup handle with fault | ⟨payload⟩ | ⟨command⟩ <;> rfl
  exact same ▸ seen

theorem assign (target source : Handle) :
    Agrees (locked.assign target source) (registry.assign target source) := by
  refine (shown.look source fun object => .ok object.payload).andThen ?_
  rw [Registry.assign]
  cases registry.lookup source with
  | error fault => rfl
  | ok object => exact fun _ known => known.edit target _

theorem insert (object : Object) :
    registry.Changes (locked.insert object) (registry.insert object) := by
  have full : registry.isFull = true ↔ locked.config.maxLiveHandles ≠ 0 ∧
      locked.config.maxLiveHandles.toNat ≤ locked.count := by
    rw [isFull, shown.config, shown.count, Bool.and_eq_true, decide_eq_true_iff,
      decide_eq_true_iff]
  rw [Registry.insert, Locked.insert]
  by_cases room : registry.isFull = true
  · rw [if_pos room, if_pos (full.1 room), shown.config]
    exact ⟨rfl, shown⟩
  · rw [if_neg room, if_neg fun refused => room (full.2 refused), shown.issue]
    have stored := shown.setSlot registry.issue object false
    exact ⟨rfl, stored.config, rfl, stored.stored⟩

theorem store (built : Except Fault Object) :
    Agrees (locked.store built) (registry.changing do
      let (handle, changed) ← registry.insert (← built)
      return (.handle handle, changed)) := by
  cases built with
  | error fault => exact ⟨rfl, shown⟩
  | ok object => exact (shown.insert object).answering .handle

theorem take (handle : Handle) :
    registry.Changes (locked.take handle) (registry.take handle) := by
  rw [Registry.take, Locked.take]
  cases live : registry.entries[handle]? with
  | none =>
      rw [shown.slot_of_dead live]
      exact ⟨rfl, shown⟩
  | some object =>
      obtain ⟨poisoned, held⟩ := shown.slot_of_live live
      simp only [held, Lock.recover_eq]
      refine ⟨rfl, shown.config, shown.next, fun key => ?_⟩
      simp only [Lock.replace, Std.ExtTreeMap.getElem?_erase]
      split
      · rfl
      · exact shown.stored key

theorem delete (handle : Handle) :
    Agrees (answering (fun _ => .done) (locked.take handle)) (registry.changing do
      return (.done, ← registry.delete handle)) := by
  have taken := (shown.take handle).answering fun _ => .done
  rw [Registry.delete]
  cases found : registry.take handle <;> rwa [found] at taken

theorem move (handle : Handle) :
    Agrees (locked.perform (.move handle)) (registry.perform (.move handle)) := by
  have taken := shown.take handle
  rw [Registry.perform]
  cases found : registry.take handle with
  | error fault =>
      rw [found] at taken
      exact taken.andThen rfl
  | ok value =>
      rw [found] at taken
      exact taken.andThen fun _ known => known.store (.ok value.1)

theorem equal (first second : Handle) :
    Agrees (locked.perform (.equal first second)) (registry.perform (.equal first second)) := by
  refine (shown.look first .ok).andThen ?_
  rw [Registry.perform]
  cases registry.lookup first with
  | error fault => rfl
  | ok a =>
      intro seen known
      have compared := (known.read second fun b => a.same b).answering .truth
      cases found : registry.lookup second <;> rwa [found] at compared

/-- Every operation makes the same of both. -/
theorem perform (operation : Operation) :
    Agrees (locked.perform operation) (registry.perform operation) := by
  cases operation with
  | create draft => exact shown.store draft.build
  | insert parts => exact shown.store parts.build
  | kind handle =>
      rw [Locked.perform, shown.kindOf]
      exact ⟨rfl, shown⟩
  | read handle =>
      have seen := (shown.read handle id).answering .object
      rwa [id_map] at seen
  | dump handle => exact (shown.read handle Object.dump).answering .text
  | delete handle => exact shown.delete handle
  | take handle => exact (shown.take handle).answering .object
  | move handle => exact shown.move handle
  | clear =>
      rw [Locked.perform, Locked.clear, shown.count]
      exact ⟨rfl, shown.config, shown.next, fun _ => rfl⟩
  | count =>
      rw [Locked.perform, shown.count]
      exact ⟨rfl, shown⟩
  | isEmpty =>
      rw [Locked.perform, shown.count]
      exact ⟨rfl, shown⟩
  | config =>
      rw [Locked.perform, shown.config]
      exact ⟨rfl, shown⟩
  | leakCheck =>
      rw [Locked.perform, shown.leakCheck]
      exact ⟨rfl, shown⟩
  | assign target source => exact (shown.assign target source).answering fun _ => .done
  | interface handle => exact shown.readCommand handle _ .text
  | operation handle => exact shown.readCommand handle _ .text
  | commandPayload handle => exact shown.readCommand handle _ .payload
  | step handle step => exact (shown.edit handle _).answering .step
  | commandStep handle step => exact (shown.edit handle _).answering .step
  | batch handle steps => exact (shown.edit handle _).answering .batch
  | equal first second => exact shown.equal first second

theorem performAll (operations : List Operation) :
    (locked.performAll operations).1 = (registry.performAll operations).1 ∧
      (locked.performAll operations).2.Shows (registry.performAll operations).2 := by
  induction operations generalizing locked registry with
  | nil => exact ⟨rfl, shown⟩
  | cons operation operations ih =>
      obtain ⟨answer, after⟩ := shown.perform operation
      obtain ⟨answers, final⟩ := ih after
      exact ⟨congr (congrArg List.cons answer) answers, final⟩

end Locked.Shows

theorem Locked.empty_shows (config : Config) : (Locked.empty config).Shows (.empty config) where
  config := rfl
  next := rfl
  stored key := by
    rw [empty, Registry.empty, Std.ExtTreeMap.getElem?_empty, Std.ExtTreeMap.getElem?_empty]
    rfl

end Registry

end PayloadExchange
