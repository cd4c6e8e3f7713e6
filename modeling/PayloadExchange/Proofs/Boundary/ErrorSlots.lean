import PayloadExchange.Proofs.Boundary.Failing

/-! # Error slots

The slot of a thread is set by the thread's own requests, and by the texts that it puts there
itself. After a request it tells how the request ended, until the thread's next one.
-/

namespace PayloadExchange.Boundary

/-- The hosts that calls and new threads lead to. A thread that calls has been started. -/
inductive Reachable (environment : Environment) : Host → Prop where
  | start : Reachable environment (.start environment)
  | call {host : Host} {thread : Thread} (call : Call) :
      Reachable environment host → thread < host.nextThread →
      Reachable environment (host.call thread call).2
  | spawn {host : Host} : Reachable environment host → Reachable environment host.startThread.2

/-- The call may change the slot of its thread. -/
def Call.sets : Call → Bool
  | request _ | setError _ => true
  | kind _ | explain | releaseNull | release _ | version | schema => false

/-- One host comes from another while a thread makes no call that may change its slot. -/
inductive Meanwhile (thread : Thread) (before : Host) : Host → Prop where
  | refl : Meanwhile thread before before
  | other {host : Host} {caller : Thread} (call : Call) :
      Meanwhile thread before host → caller ≠ thread →
      Meanwhile thread before (host.call caller call).2
  | own {host : Host} {call : Call} :
      Meanwhile thread before host → call.sets = false →
      Meanwhile thread before (host.call thread call).2
  | spawn {host : Host} :
      Meanwhile thread before host → host.nextThread ≠ thread →
      Meanwhile thread before host.startThread.2

namespace Host

variable {host : Host} {thread : Thread}

theorem explain_setSlot (host : Host) (thread other : Thread) (text : Option Bytes) :
    (host.setSlot thread text).explain other
      = if thread = other then text else host.explain other := by
  unfold explain setSlot
  cases text with
  | some bytes => simp [Std.ExtTreeMap.getElem?_insert]
  | none => simp [Std.ExtTreeMap.getElem?_erase]

theorem explain_request (host : Host) (thread other : Thread) (request : Request) :
    (host.request thread request).2.explain other =
      match (request.run host.registry).1 with
      | .ok _ =>
          if host.clearsOnSuccess ∧ thread = other then none else host.explain other
      | .error fault => if thread = other then some (recorded fault) else host.explain other := by
  unfold Host.request
  split
  · next success after ran =>
      simp only [ran]
      cases policy : host.clearsOnSuccess with
      | true =>
          simp only [if_true, explain_setSlot, true_and]
          rfl
      | false =>
          simp only [Bool.false_eq_true, if_false, false_and]
          rfl
  · next fault after ran =>
      simp only [ran, explain_setSlot]
      rfl

theorem recorded_eq {fault : Fault} (clean : fault.Clean) :
    recorded fault = Text.utf8 fault.report.display := by
  unfold recorded
  rw [List.filter_eq_self]
  intro byte member
  rw [decide_eq_true_iff]
  rintro rfl
  exact Fault.display_whole clean member

theorem explain_request_error {request : Request} {fault : Fault} (clean : fault.Clean)
    (failed : (request.run host.registry).1 = .error fault) :
    (host.request thread request).2.explain thread = some (Text.utf8 fault.report.display) := by
  rw [explain_request, failed, ← recorded_eq clean]
  exact if_pos rfl

theorem slots_call {call : Call} (quiet : call.sets = false) :
    (host.call thread call).2.slots = host.slots := by
  cases call with
  | request request | setError text => cases quiet
  | kind handle | explain | releaseNull | release bytes | version | schema => rfl

theorem explain_call_other {other : Thread} (call : Call) (apart : other ≠ thread) :
    (host.call thread call).2.explain other = host.explain other := by
  cases call with
  | request request =>
      rw [call, explain_request]
      split <;> simp [apart.symm]
  | setError text => simp [call, explain_setSlot, apart.symm]
  | kind handle | explain | releaseNull | release bytes | version | schema => rfl

theorem call_frame (host : Host) (thread : Thread) (call : Call) :
    ∃ registry slots, (host.call thread call).2 = { host with registry, slots } := by
  cases call with
  | request request =>
      obtain ⟨slots, same⟩ := host.request_frame thread request
      exact ⟨_, slots, same⟩
  | setError text => exact ⟨_, _, rfl⟩
  | kind handle | explain | releaseNull | release bytes | version | schema => exact ⟨_, _, rfl⟩

theorem nextThread_call (host : Host) (thread : Thread) (call : Call) :
    (host.call thread call).2.nextThread = host.nextThread := by
  obtain ⟨registry, slots, same⟩ := host.call_frame thread call
  rw [same]

end Host

/-- What every reachable host keeps: the policy of its environment, and no slot for a thread
    that has not been started. -/
structure Kept (environment : Environment) (host : Host) : Prop where
  policy : host.clearsOnSuccess
    = Setting.flag (environment Contract.clearErrorOnSuccessVariable) true
  unborn : ∀ thread, host.nextThread ≤ thread → host.explain thread = none

theorem Reachable.kept {environment : Environment} {host : Host}
    (reachable : Reachable environment host) : Kept environment host := by
  induction reachable with
  | start => exact ⟨rfl, fun thread _ => Std.ExtTreeMap.getElem?_empty⟩
  | @call host caller call _ started kept =>
      constructor
      · obtain ⟨registry, slots, same⟩ := host.call_frame caller call
        rw [same]
        exact kept.policy
      · intro thread later
        rw [Host.nextThread_call] at later
        have apart : thread ≠ caller := Nat.ne_of_gt (Nat.lt_of_lt_of_le started later)
        rw [Host.explain_call_other call apart]
        exact kept.unborn thread later
  | @spawn host _ kept =>
      refine ⟨kept.policy, ?_⟩
      intro thread later
      rw [Host.startThread, Host.explain_setSlot]
      split
      · rfl
      · exact kept.unborn thread (Nat.le_of_succ_le later)

/-- Starting a thread changes no slot: the one that it empties is empty. -/
theorem Reachable.explain_startThread {environment : Environment} {host : Host}
    (reachable : Reachable environment host) (thread : Thread) :
    host.startThread.2.explain thread = host.explain thread := by
  rw [Host.startThread, Host.explain_setSlot]
  split
  · next same =>
      subst same
      exact (reachable.kept.unborn _ (Nat.le_refl _)).symm
  · rfl

theorem Meanwhile.explain_eq {thread : Thread} {before after : Host}
    (meanwhile : Meanwhile thread before after) : after.explain thread = before.explain thread := by
  induction meanwhile with
  | refl => rfl
  | other call _ apart ih => rw [Host.explain_call_other call apart.symm, ih]
  | own _ quiet ih =>
      rw [Host.explain, Host.slots_call quiet]
      exact ih
  | spawn _ apart ih =>
      rw [Host.startThread, Host.explain_setSlot, if_neg apart]
      exact ih

mutual

theorem nextThread_run (host : Host) (thread : Thread) (step : Step) :
    host.nextThread ≤ (host.run thread step).2.nextThread := by
  cases step with
  | call call => exact Nat.le_of_eq (host.nextThread_call thread call).symm
  | thread steps =>
      have := nextThread_runAll host.startThread.2 host.startThread.1 steps
      exact Nat.le_trans (Nat.le_succ _) this

theorem nextThread_runAll (host : Host) (thread : Thread) (steps : List Step) :
    host.nextThread ≤ (host.runAll thread steps).2.nextThread := by
  cases steps with
  | nil => exact Nat.le_refl _
  | cons step steps =>
      exact Nat.le_trans (nextThread_run host thread step)
        (nextThread_runAll (host.run thread step).2 thread steps)

end

mutual

theorem Reachable.run {environment : Environment} {host : Host}
    (reachable : Reachable environment host) {thread : Thread}
    (started : thread < host.nextThread) (step : Step) :
    Reachable environment (host.run thread step).2 := by
  cases step with
  | call call => exact .call call reachable started
  | thread steps => exact reachable.spawn.runAll (Nat.lt_succ_self _) steps

theorem Reachable.runAll {environment : Environment} {host : Host}
    (reachable : Reachable environment host) {thread : Thread}
    (started : thread < host.nextThread) (steps : List Step) :
    Reachable environment (host.runAll thread steps).2 := by
  cases steps with
  | nil => exact reachable
  | cons step steps =>
      exact (reachable.run started step).runAll
        (Nat.lt_of_lt_of_le started (nextThread_run host thread step)) steps

end

/-- What a request means for the slot of its thread. -/
structure Answered (clears : Bool) (host : Host) (thread : Thread) (request : Request) :
    Prop where
  sign : (host.call thread (.request request)).1.isFailure = true
    ↔ ∃ fault, (request.run host.registry).1 = .error fault
  failure : ∀ fault, (request.run host.registry).1 = .error fault →
    (host.call thread (.request request)).2.explain thread
      = some (Text.utf8 fault.report.display)
  success : (host.call thread (.request request)).1.isFailure = false →
    (host.call thread (.request request)).2.explain thread
      = if clears then none else host.explain thread
  /-- With slots that a success empties, the slot tells the end of the last request. -/
  lasting : clears = true →
    ∀ later, Meanwhile thread (host.call thread (.request request)).2 later →
      (later.explain thread).isSome = (host.call thread (.request request)).1.isFailure

theorem answered {host : Host} (fits : host.registry.Fits) (thread : Thread) (request : Request) :
    Answered host.clearsOnSuccess host thread request := by
  have sign : (host.request thread request).1.isFailure = true
      ↔ ∃ fault, (request.run host.registry).1 = .error fault :=
    Host.request_isFailure_iff fits
  have slot := host.explain_request thread thread request
  have failure (fault : Fault) (failed : (request.run host.registry).1 = .error fault) :
      (host.request thread request).2.explain thread = some (Text.utf8 fault.report.display) :=
    Host.explain_request_error (Request.run_error failed).1.1 failed
  have success (done : (host.request thread request).1.isFailure = false) :
      (host.request thread request).2.explain thread
        = if host.clearsOnSuccess then none else host.explain thread := by
    cases outcome : (request.run host.registry).1 with
    | ok success =>
        rw [slot, outcome]
        simp
    | error fault =>
        rw [sign.2 ⟨fault, outcome⟩] at done
        cases done
  refine ⟨sign, failure, success, ?_⟩
  intro clears later meanwhile
  rw [meanwhile.explain_eq]
  cases ended : (host.request thread request).1.isFailure with
  | true =>
      obtain ⟨fault, failed⟩ := sign.1 ended
      rw [Host.call, failure fault failed, ended]
      rfl
  | false =>
      rw [Host.call, success ended, if_pos clears, ended]
      rfl

/-- Requests answer for their own thread: they return the sign of a failure if and only if
    they fail, and then its slot holds the wording of the fault; otherwise its slot is empty or
    as it was, by the policy. The other calls keep to their own part, and no call and no new
    thread has a say in the slot of another thread. -/
theorem call_error_protocol {environment : Environment} {host : Host}
    (reachable : Reachable environment host) (fits : host.registry.Fits) (thread : Thread) :
    let clears := Setting.flag (environment Contract.clearErrorOnSuccessVariable) true
    (∀ request, Answered clears host thread request) ∧
    (∀ call : Call, call.sets = false → (host.call thread call).2.slots = host.slots) ∧
    (∀ text, (host.call thread (.setError text)).2.explain thread
      = text.map Bytes.beforeNul) ∧
    (∀ call other, other ≠ thread →
      (host.call thread call).2.explain other = host.explain other) ∧
    host.startThread.2.explain host.startThread.1 = none ∧
    ∀ other, host.startThread.2.explain other = host.explain other := by
  have kept := reachable.kept
  intro clears
  refine ⟨?_, fun _ => Host.slots_call, ?_, fun call _ => Host.explain_call_other call, ?_,
    reachable.explain_startThread⟩
  · intro request
    rw [show clears = host.clearsOnSuccess from kept.policy.symm]
    exact answered fits thread request
  · intro text
    rw [Host.call, Host.explain_setSlot, if_pos rfl]
  · rw [Host.startThread, Host.explain_setSlot, if_pos rfl]

/-- Without settings: the thread that tried to pop reads why it could not, and no other. -/
theorem explain_after_empty_pop :
    let environment : Environment := fun _ => none
    let host := ((Host.start environment).call 0 (.request .newPayload)).2
    let after := (host.call 0 (.request (.popString 1))).2
    Reachable environment host ∧ host.registry.Fits ∧
      after.explain 0 = some (Text.utf8 "Out of range: pop from empty argument list") ∧
      after.explain 1 = none := by
  intro environment host after
  have reachable : Reachable environment host := .call _ .start (by decide)
  have fits : host.registry.Fits := by
    have single : host.registry.entries
        = (∅ : Std.ExtTreeMap Handle Object).insert 1 (.data .empty) := rfl
    exact Registry.fits_of_single single ⟨by decide, by decide⟩
  have failed : ((Request.popString 1).run host.registry).1 = .error .nothingToPop := rfl
  obtain ⟨answered, -, -, others, -⟩ := call_error_protocol reachable fits 0
  refine ⟨reachable, fits, (answered (.popString 1)).failure _ failed, ?_⟩
  rw [others _ 1 (by decide)]
  rfl

end PayloadExchange.Boundary
