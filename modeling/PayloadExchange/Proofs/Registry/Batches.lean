import PayloadExchange.Proofs.Registry.Locking

/-! # A batch and its steps

A batch takes its steps in one edit, with the lock held throughout. The same steps may as well be
edits of their own, up to the first that fails or breaks off: the answers, the failure and all that
is left are the same. Nothing is lost in either way, and nothing that was poisoned is noticed later.
-/

namespace PayloadExchange

/-- Takes steps in turn up to the first failure: the answers, the failure if there was one, and
    what is left. -/
def takeUntilFault {σ α β : Type} (take : σ → α → Except Fault β × σ) (state : σ) :
    List α → (List β × Option Fault) × σ
  | [] => (([], none), state)
  | step :: steps =>
      match take state step with
      | (.ok answer, changed) =>
          let ((answers, failure), final) := takeUntilFault take changed steps
          ((answer :: answers, failure), final)
      | (.error fault, changed) => (([], some fault), changed)

def summary {β : Type} : List β × Option Fault → Except Fault (List β)
  | (answers, none) => .ok answers
  | (_, some fault) => .error fault

/-- If single steps come out the same inside of a carrier, which may also keep the fault, then all
    of them up to the first failure do. -/
theorem takeUntilFault_carried {σ τ α β : Type} (take : σ → α → Except Fault β × σ)
    (takeIn : τ → α → Except Fault β × τ) (carrier : Option Fault → σ → τ)
    (each : ∀ state step, takeIn (carrier none state) step = ((take state step).1,
      carrier (faultOf (take state step).1) (take state step).2)) (state : σ) (steps : List α) :
    let run := takeUntilFault take state steps
    takeUntilFault takeIn (carrier none state) steps = (run.1, carrier run.1.2 run.2) := by
  induction steps generalizing state with
  | nil => rfl
  | cons step steps ih =>
      simp only [takeUntilFault, each]
      rcases take state step with ⟨result, changed⟩
      cases result with
      | error fault => rfl
      | ok answer =>
          have rest := ih changed
          simp only [faultOf, rest]

theorem brokeOff_eq {α : Type} (result : Except Fault α) :
    brokeOff result = (faultOf result).any Fault.isAbort := by
  cases result <;> rfl

theorem faultOf_summary {β : Type} (run : List β × Option Fault) :
    faultOf (summary run) = run.2 := by
  obtain ⟨answers, failure⟩ := run
  cases failure <;> rfl

namespace Payload

/-- How far steps on a payload got: to the end, or to one that failed and left what the steps
    before it had left. -/
inductive Reached (payload : Payload) (steps : List Step) :
    List Answer × Option Fault → Payload → Prop where
  | done {answers : List Answer} {final : Payload} :
      takeAll perform payload steps = (answers.map .ok, final) →
      Reached payload steps (answers, none) final
  | stopped {before after : List Step} {step : Step} {answers : List Answer} {fault : Fault}
      {final : Payload} : steps = before ++ step :: after →
      takeAll perform payload before = (answers.map .ok, final) →
      final.perform step = (.error fault, final) →
      Reached payload steps (answers, some fault) final

variable {payload : Payload}

theorem eq_of_perform_error {step : Step} {fault : Fault} {after : Payload}
    (failed : payload.perform step = (.error fault, after)) : after = payload := by
  unfold perform at failed
  split at failed
  · cases failed
  · exact (congrArg Prod.snd failed).symm

theorem Reached.cons {step : Step} {answer : Answer} {changed : Payload}
    (taken : payload.perform step = (.ok answer, changed)) {steps : List Step}
    {run : List Answer × Option Fault} {final : Payload}
    (reached : Reached changed steps run final) :
    Reached payload (step :: steps) (answer :: run.1, run.2) final := by
  have further {later : List Step} {answers : List Answer}
      (rest : takeAll perform changed later = (answers.map .ok, final)) :
      takeAll perform payload (step :: later) = ((answer :: answers).map .ok, final) := by
    simp only [takeAll, taken, rest, List.map_cons]
  cases reached with
  | done all => exact .done (further all)
  | stopped split earlier failed =>
      exact .stopped (congrArg (step :: ·) split) (further earlier) failed

theorem reached (payload : Payload) (steps : List Step) :
    let run := takeUntilFault perform payload steps
    Reached payload steps run.1 run.2 := by
  induction steps generalizing payload with
  | nil => exact .done rfl
  | cons step steps ih =>
      simp only [takeUntilFault]
      split
      · next answer changed taken => exact (ih changed).cons taken
      · next fault changed taken =>
          obtain rfl := eq_of_perform_error taken
          exact .stopped (List.nil_append _).symm rfl taken

theorem performAll_eq (payload : Payload) (steps : List Step) :
    let run := takeUntilFault perform payload steps
    payload.performAll steps = (summary run.1, run.2) := by
  induction steps generalizing payload with
  | nil => rfl
  | cons step steps ih =>
      rw [performAll, takeUntilFault]
      rcases payload.perform step with ⟨result, changed⟩
      cases result with
      | error fault => rfl
      | ok answer =>
          simp only [ih changed]
          rcases takeUntilFault perform changed steps with ⟨⟨answers, failure⟩, final⟩
          cases failure <;> rfl

end Payload

namespace Registry

namespace Locked

variable {locked : Locked} {handle : Handle} {slot : Slot} {object : Object} {poisoned : Bool}

theorem slot_setSlot (locked : Locked) (handle : Handle) (slot : Slot) :
    (locked.setSlot handle slot).slot handle = .ok slot := by
  simp only [Locked.slot, setSlot, Lock.replace, Lock.recover_eq,
    Std.ExtTreeMap.getElem?_insert_self]

theorem setSlot_setSlot (locked : Locked) (handle : Handle) (slot later : Slot) :
    (locked.setSlot handle slot).setSlot handle later = locked.setSlot handle later := by
  have same : (locked.slots.value.insert handle slot).insert handle later
      = locked.slots.value.insert handle later := by
    apply Std.ExtTreeMap.ext_getElem?
    intro key
    simp only [Std.ExtTreeMap.getElem?_insert]
    split <;> rfl
  simp only [setSlot, Lock.replace, Lock.recover_eq, same]

theorem setSlot_self (held : locked.slot handle = .ok slot) :
    locked.setSlot handle slot = locked := by
  have stored : locked.slots.value[handle]? = some slot := by
    rw [Locked.slot, Lock.recover_eq] at held
    split at held
    · next found same => rw [same, Except.ok.inj held]
    · cases held
  simp only [setSlot, Lock.replace, Lock.recover_eq, insert_of_stored stored]

theorem editPayload_of_held {α : Type} (held : locked.slot handle = .ok ⟨some object, poisoned⟩)
    (change : Payload → Except Fault α × Payload) :
    locked.editPayload handle change = ((change object.payload).1, locked.setSlot handle
      ⟨some (object.withPayload (change object.payload).2),
        poisoned || brokeOff (change object.payload).1⟩) := by
  simp only [editPayload, edit, held, Lock.hold, Lock.recover_eq]
  rfl

/-- Takes a step on the payload behind a handle, in an edit of its own. -/
def stepIn (handle : Handle) (locked : Locked) (step : Payload.Step) :
    Except Fault Payload.Answer × Locked :=
  locked.editPayload handle (·.perform step)

/-- Steps in edits of their own leave what they leave of the bare payload, and a poisoned lock if
    the last of them broke off. -/
theorem takeUntilFault_stepIn (held : locked.slot handle = .ok ⟨some object, poisoned⟩)
    (steps : List Payload.Step) :
    let inside := takeUntilFault Payload.perform object.payload steps
    takeUntilFault (stepIn handle) locked steps = (inside.1, locked.setSlot handle
      ⟨some (object.withPayload inside.2), poisoned || inside.1.2.any Fault.isAbort⟩) := by
  have carried := takeUntilFault_carried Payload.perform (stepIn handle)
    (fun failure payload => locked.setSlot handle
      ⟨some (object.withPayload payload), poisoned || failure.any Fault.isAbort⟩)
    (fun payload step => ?_) object.payload steps
  · simp only [object.withPayload_payload, Option.any_none, Bool.or_false, setSlot_self held]
      at carried
    exact carried
  · have taken := editPayload_of_held (slot_setSlot locked handle
      ⟨some (object.withPayload payload), poisoned⟩) (·.perform step)
    simp only [setSlot_setSlot, Object.payload_withPayload, Object.withPayload_withPayload] at taken
    simp only [stepIn, Option.any_none, Bool.or_false, taken, brokeOff_eq]

end Locked

/-- The same without locks. -/
def stepIn (handle : Handle) (registry : Registry) (step : Payload.Step) :
    Except Fault Payload.Answer × Registry :=
  registry.editPayload handle (·.perform step)

theorem takeUntilFault_stepIn {registry : Registry} {handle : Handle} {object : Object}
    (live : registry.entries[handle]? = some object) (steps : List Payload.Step) :
    let inside := takeUntilFault Payload.perform object.payload steps
    takeUntilFault (stepIn handle) registry steps
      = (inside.1, registry.withPayload handle inside.2) := by
  have carried := takeUntilFault_carried Payload.perform (stepIn handle)
    (fun _ payload => registry.withPayload handle payload)
    (fun payload step => ?_) object.payload steps
  · rwa [withPayload_self live] at carried
  · have taken := editPayload_of_live (entries_withPayload live payload) (·.perform step)
    rwa [Object.payload_withPayload, withPayload_withPayload] at taken

/-- Of a batch on a live object, beside its steps in edits of their own. -/
structure Locked.Batched (locked : Locked) (registry : Registry) (handle : Handle)
    (object : Object) (steps : List Payload.Step)
    (inside : (List Payload.Answer × Option Fault) × Payload)
    (each : (List Payload.Answer × Option Fault) × Locked) : Prop where
  /-- In edits of their own the steps come to what they come to in one. -/
  answers : each.1 = inside.1
  /-- The results are the same, and so is all that is left, with the locks. -/
  batch : locked.perform (.batch handle steps) = (.batch <$> summary each.1, each.2)
  /-- The steps before a failure are kept; neither it nor a later one changes anything. -/
  reached : Payload.Reached object.payload steps inside.1 inside.2
  contents : each.2.Shows (registry.withPayload handle inside.2)
  replaced : registry.PayloadReplaced (registry.withPayload handle inside.2) handle object inside.2
  live : handle ∈ each.2.liveHandles ∧ each.2.liveHandles = locked.liveHandles
  /-- The same contents behind any other locks answer the same from here on. -/
  later : ∀ other : Locked, other.Shows (registry.withPayload handle inside.2) →
    ∀ operations : List Operation,
      (each.2.performAll operations).1 = (other.performAll operations).1
  /-- Without the locks it is no different. -/
  plain : registry.perform (.batch handle steps)
      = (.batch <$> summary inside.1, registry.withPayload handle inside.2) ∧
    takeUntilFault (Registry.stepIn handle) registry steps
      = (inside.1, registry.withPayload handle inside.2)

theorem Locked.Shows.batched {locked : Locked} {registry : Registry} {handle : Handle}
    {object : Object} (shown : locked.Shows registry)
    (live : registry.lookup handle = .ok object) (steps : List Payload.Step) :
    locked.Batched registry handle object steps
      (takeUntilFault Payload.perform object.payload steps)
      (takeUntilFault (stepIn handle) locked steps) := by
  have stored := lookup_eq_ok_iff.1 live
  obtain ⟨poisoned, held⟩ := shown.slot_of_live stored
  have each := Locked.takeUntilFault_stepIn held steps
  have performed := object.payload.performAll_eq steps
  have batch : locked.perform (.batch handle steps)
      = (.batch <$> summary (takeUntilFault (stepIn handle) locked steps).1,
        (takeUntilFault (stepIn handle) locked steps).2) := by
    simp only [Locked.perform, Locked.answering, editPayload_of_held held, performed, each,
      brokeOff_eq, faultOf_summary]
  have plain : registry.perform (.batch handle steps) = (.batch <$> summary
      (takeUntilFault Payload.perform object.payload steps).1, registry.withPayload handle
        (takeUntilFault Payload.perform object.payload steps).2) := by
    simp only [Registry.perform, editPayload_of_live stored, performed]
  have contents := (shown.perform (.batch handle steps)).2
  rw [batch, plain] at contents
  have replaced := payloadReplaced stored (takeUntilFault Payload.perform object.payload steps).2
  have listed := (contents.liveHandles.trans replaced.liveHandles).trans shown.liveHandles.symm
  refine ⟨congrArg Prod.fst each, batch, object.payload.reached steps, contents, replaced,
    ⟨?_, listed⟩, ?_, plain, Registry.takeUntilFault_stepIn stored steps⟩
  · rw [listed, shown.liveHandles]
    exact mem_liveHandles.2 ⟨object, live⟩
  · intro other same operations
    rw [(contents.performAll operations).1, (same.performAll operations).1]

/-- The lock is not poisoned, and no lock behind it is. -/
def Locked.Unpoisoned (locked : Locked) : Prop :=
  locked.slots.poisoned = false ∧ ∀ (handle : Handle) (slot : Slot),
    locked.slot handle = .ok slot → slot.poisoned = false

theorem behindLocks_unpoisoned (registry : Registry) : registry.behindLocks.Unpoisoned := by
  refine ⟨rfl, fun handle slot held => ?_⟩
  rw [Locked.slot, Lock.recover_eq, behindLocks, Std.ExtTreeMap.getElem?_map] at held
  cases stored : registry.entries[handle]? with
  | none =>
      rw [stored] at held
      cases held
  | some object =>
      rw [stored] at held
      rw [← Except.ok.inj held]

/-- A batch in one edit is the same as its steps in edits of their own up to the first that fails
    or breaks off: in its answers, in its failure and in all that is left. Whatever broke off, each
    object stays live, the changes before are kept, and what is asked later is answered as if
    nothing had ever broken off. -/
theorem batch_equals_its_steps :
    (∀ (config : Config) (operations : List Operation),
      let ours := (Locked.empty config).performAll operations
      let theirs := (Registry.empty config).performAll operations
      ours.1 = theirs.1 ∧ ours.2.Shows theirs.2) ∧
    (∀ (locked : Locked) (registry : Registry) (handle : Handle) (object : Object)
      (steps : List Payload.Step), locked.Shows registry → registry.lookup handle = .ok object →
      locked.Batched registry handle object steps
        (takeUntilFault Payload.perform object.payload steps)
        (takeUntilFault (Locked.stepIn handle) locked steps)) ∧
    ∀ registry : Registry,
      registry.behindLocks.Shows registry ∧ registry.behindLocks.Unpoisoned := by
  refine ⟨?_, ?_, ?_⟩
  · intro config operations ours theirs
    exact (Locked.empty_shows config).performAll operations
  · intro locked registry handle object steps shown live
    exact shown.batched live steps
  · intro registry
    exact ⟨registry.behindLocks_shows, registry.behindLocks_unpoisoned⟩

/-- On a command a batch breaks off at its second step. The lock of the command is poisoned, and
    the next step finds what the first one left. -/
theorem batch_broken_off_on_command :
    let operations : List Operation :=
      [.insert {}, .insert { args := [[7]], names := some ("a", "b") }]
    let locked := ((Locked.empty {}).performAll operations).2
    let registry := ((empty {}).performAll operations).2
    let object : Object := .command ⟨"a", "b", { args := [[7]] }⟩
    let steps : List Payload.Step := [.push [1], .abort "oops", .clear]
    let each := takeUntilFault (Locked.stepIn 2) locked steps
    locked.Shows registry ∧ registry.lookup 2 = .ok object ∧
      each.1 = ([.done], some (.aborted "oops")) ∧
      locked.perform (.batch 2 steps) = (.error (.aborted "oops"), each.2) ∧
      each.2.Shows (registry.withPayload 2 { args := [[7], [1]] }) ∧
      Lock.poisoned <$> each.2.slot 2 = .ok true ∧
      (each.2.performAll [.step 2 (.remove 0)]).1 = [.ok (.step (.arg [7]))] := by
  intro operations locked registry object steps each
  obtain ⟨runs, batches, restored⟩ := batch_equals_its_steps
  have shown : locked.Shows registry := (runs {} operations).2
  have batched := batches locked registry 2 object steps shown rfl
  have unbroken := (restored (registry.withPayload 2 { args := [[7], [1]] })).1
  refine ⟨shown, rfl, batched.answers, batched.batch, batched.contents, rfl, ?_⟩
  exact batched.later _ unbroken [.step 2 (.remove 0)]

end Registry

end PayloadExchange
