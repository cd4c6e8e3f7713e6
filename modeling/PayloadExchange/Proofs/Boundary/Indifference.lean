import PayloadExchange.Proofs.Boundary.ErrorSlots

/-! # Error reports influence nothing

What a call returns and does depends on the registry and on nothing else of a host: neither on
the policy for error slots, nor on what is in them, nor on which thread calls. A program may thus
be read as the plain list of its calls, with its reports left out and its threads unfolded. In
return, the slot of a thread is an account of that thread's own calls and of how they ended.
-/

namespace PayloadExchange.Boundary

/-- The call is about error slots only. -/
def Call.reports : Call → Bool
  | explain | setError _ => true
  | request _ | kind _ | releaseNull | release _ | version | schema => false

/-- What a call returns and leaves behind, given the registry alone. -/
def Call.serve (registry : Registry) : Call → Reply × Registry
  | request asked =>
      match asked.run registry with
      | (.ok success, after) => (success.reply, after)
      | (.error _, after) => (asked.failure, after)
  | kind handle => (.kind (registry.kindOf handle), registry)
  | explain | setError _ | releaseNull | release _ => (.nothing, registry)
  | version => (.version Contract.version, registry)
  | schema => (.schema Contract.schemaVersion, registry)

def serveAll (registry : Registry) : List Call → List (Call × Reply) × Registry
  | [] => ([], registry)
  | call :: calls =>
      let (reply, after) := call.serve registry
      let (replies, final) := serveAll after calls
      ((call, reply) :: replies, final)

theorem serveAll_append (registry : Registry) (calls later : List Call) :
    serveAll registry (calls ++ later)
      = ((serveAll registry calls).1 ++ (serveAll (serveAll registry calls).2 later).1,
        (serveAll (serveAll registry calls).2 later).2) := by
  induction calls generalizing registry with
  | nil => rfl
  | cons call calls ih => simp only [List.cons_append, serveAll, ih]

theorem map_fst_serveAll (registry : Registry) (calls : List Call) :
    (serveAll registry calls).1.map Prod.fst = calls := by
  induction calls generalizing registry with
  | nil => rfl
  | cons call calls ih => simp only [serveAll, List.map_cons, ih]

namespace Host

variable (host : Host) (thread : Thread)

/-- A call that is no report returns what the registry makes of it. -/
theorem call_serve {call : Call} (plain : call.reports = false) :
    (host.call thread call).1 = (call.serve host.registry).1 := by
  cases call with
  | request asked =>
      rw [Host.call, Host.request, Call.serve]
      rcases asked.run host.registry with ⟨outcome, after⟩
      cases outcome <;> rfl
  | explain | setError text => cases plain
  | kind handle | releaseNull | release bytes | version | schema => rfl

theorem registry_call (call : Call) :
    (host.call thread call).2.registry = (call.serve host.registry).2 := by
  cases call with
  | request asked =>
      rw [Host.call, request_registry, Call.serve]
      rcases asked.run host.registry with ⟨outcome, after⟩
      cases outcome <;> rfl
  | explain | setError text | kind handle | releaseNull | release bytes | version | schema => rfl

theorem clearsOnSuccess_call (call : Call) :
    (host.call thread call).2.clearsOnSuccess = host.clearsOnSuccess := by
  obtain ⟨registry, slots, same⟩ := host.call_frame thread call
  rw [same]

end Host

namespace Step

mutual

/-- The calls of a step in the order in which they are made, without the reports. -/
def plain : Step → List Call
  | .call made => if made.reports then [] else [made]
  | .thread steps => plainAll steps

def plainAll : List Step → List Call
  | [] => []
  | step :: steps => plain step ++ plainAll steps

end

mutual

/-- The calls of a step, each with what came back, without the reports. -/
def replies : Step → Trace → List (Call × Reply)
  | .call made, .call reply _ => if made.reports then [] else [(made, reply)]
  | .thread steps, .thread traces _ => repliesAll steps traces
  | .call _, .thread .. | .thread _, .call .. => []

def repliesAll : List Step → List Trace → List (Call × Reply)
  | step :: steps, trace :: traces => replies step trace ++ repliesAll steps traces
  | [], _ | _ :: _, [] => []

end

theorem plainAll_append (steps later : List Step) :
    plainAll (steps ++ later) = plainAll steps ++ plainAll later := by
  induction steps with
  | nil => rfl
  | cons step steps ih => rw [List.cons_append, plainAll, plainAll, ih, List.append_assoc]

end Step

/-- Two programs make the same calls in the same order, but for reports, and have them made by
    other threads. -/
inductive Akin : List Step → List Step → Prop where
  | refl (steps : List Step) : Akin steps steps
  | symm {steps others : List Step} : Akin steps others → Akin others steps
  | trans {steps others further : List Step} :
      Akin steps others → Akin others further → Akin steps further
  /-- A report is inserted. -/
  | report (before : List Step) {call : Call} (after : List Step) :
      call.reports = true → Akin (before ++ after) (before ++ .call call :: after)
  /-- Some consecutive steps are moved to a new thread. -/
  | thread (before block after : List Step) :
      Akin (before ++ block ++ after) (before ++ .thread block :: after)
  /-- The program of a thread is changed in one of these ways. -/
  | inside (before : List Step) {block other : List Step} (after : List Step) :
      Akin block other → Akin (before ++ .thread block :: after) (before ++ .thread other :: after)

theorem Akin.plainAll_eq {steps others : List Step} (akin : Akin steps others) :
    Step.plainAll steps = Step.plainAll others := by
  induction akin with
  | refl => rfl
  | symm _ ih => exact ih.symm
  | trans _ _ first second => exact first.trans second
  | report before after reports =>
      simp only [Step.plainAll_append, Step.plainAll, Step.plain, reports, if_true,
        List.nil_append]
  | thread before block after =>
      simp only [Step.plainAll_append, Step.plainAll, Step.plain, List.append_assoc]
  | inside before after _ ih =>
      simp only [Step.plainAll_append, Step.plainAll, Step.plain, ih]

mutual

theorem run_serve (host : Host) (thread : Thread) (step : Step) :
    (step.replies (host.run thread step).1, (host.run thread step).2.registry)
      = serveAll host.registry step.plain := by
  cases step with
  | call call =>
      have after := host.registry_call thread call
      cases reports : call.reports with
      | true =>
          -- A report leaves the registry alone.
          have still : (call.serve host.registry).2 = host.registry := by
            cases call with
            | explain | setError text => rfl
            | request | kind | releaseNull | release | version | schema => cases reports
          simp only [Host.run, Step.replies, Step.plain, reports, if_true, serveAll]
          rw [after, still]
      | false =>
          simp only [Host.run, Step.replies, Step.plain, reports, Bool.false_eq_true, if_false,
            serveAll]
          rw [after, host.call_serve thread reports]
  | thread steps => exact runAll_serve host.startThread.2 host.startThread.1 steps

theorem runAll_serve (host : Host) (thread : Thread) (steps : List Step) :
    (Step.repliesAll steps (host.runAll thread steps).1, (host.runAll thread steps).2.registry)
      = serveAll host.registry (Step.plainAll steps) := by
  cases steps with
  | nil => rfl
  | cons step steps =>
      have first := run_serve host thread step
      have rest := runAll_serve (host.run thread step).2 thread steps
      rw [Step.plainAll, serveAll_append, ← first, ← rest]
      rfl

end

def Call.fault (registry : Registry) : Call → Option Fault
  | request asked =>
      match (asked.run registry).1 with
      | .error fault => some fault
      | .ok _ => none
  | kind _ | explain | setError _ | releaseNull | release _ | version | schema => none

/-- The slot of a thread after its own call. -/
def Call.note (clears : Bool) (slot : Option Bytes) : Call → Option Fault → Option Bytes
  | request _, some fault => some (Host.recorded fault)
  | request _, none => if clears then none else slot
  | setError text, _ => text.map Bytes.beforeNul
  | kind _, _ | explain, _ | releaseNull, _ | release _, _ | version, _ | schema, _ => slot

/-- A host leads to another, and these are the calls that the thread makes in between, each with
    the fault that it fails with. Any other threads may call and be started meanwhile. -/
inductive Account (thread : Thread) (start : Host) : List (Call × Option Fault) → Host → Prop where
  | start : Account thread start [] start
  | own {entries : List (Call × Option Fault)} {host : Host} (call : Call) :
      Account thread start entries host →
      Account thread start (entries ++ [(call, call.fault host.registry)]) (host.call thread call).2
  | other {entries : List (Call × Option Fault)} {host : Host} {caller : Thread} (call : Call) :
      Account thread start entries host → thread ≠ caller →
      Account thread start entries (host.call caller call).2
  | spawn {entries : List (Call × Option Fault)} {host : Host} :
      Account thread start entries host → thread ≠ host.nextThread →
      Account thread start entries host.startThread.2

/-- What entries make of a slot. -/
def noteAll (clears : Bool) (slot : Option Bytes) (entries : List (Call × Option Fault)) :
    Option Bytes :=
  entries.foldl (fun slot entry => entry.1.note clears slot entry.2) slot

theorem Host.explain_call_own (host : Host) (thread : Thread) (call : Call) :
    (host.call thread call).2.explain thread
      = call.note host.clearsOnSuccess (host.explain thread) (call.fault host.registry) := by
  cases call with
  | request asked =>
      rw [Host.call, explain_request, Call.fault]
      cases (asked.run host.registry).1 with
      | ok success => simp [Call.note]
      | error fault => simp [Call.note]
  | setError text => rw [Host.call, explain_setSlot, if_pos rfl, Call.note]
  | kind handle | explain | releaseNull | release bytes | version | schema => rfl

namespace Account

variable {thread : Thread} {start host : Host} {entries : List (Call × Option Fault)}

theorem clearsOnSuccess_eq (account : Account thread start entries host) :
    host.clearsOnSuccess = start.clearsOnSuccess := by
  induction account with
  | start => rfl
  | own call _ ih => rw [Host.clearsOnSuccess_call, ih]
  | other call _ _ ih => rw [Host.clearsOnSuccess_call, ih]
  | spawn _ _ ih => exact ih

theorem explain_eq (account : Account thread start entries host) :
    host.explain thread = noteAll start.clearsOnSuccess (start.explain thread) entries := by
  induction account with
  | start => rfl
  | own call before ih =>
      rw [Host.explain_call_own, before.clearsOnSuccess_eq, ih, noteAll, noteAll, List.foldl_append]
      rfl
  | other call _ apart ih => rw [Host.explain_call_other call apart, ih]
  | spawn _ apart ih =>
      rw [Host.startThread, Host.explain_setSlot, if_neg apart.symm]
      exact ih

end Account

mutual

theorem Account.run_other {thread child : Thread} {start host : Host}
    {entries : List (Call × Option Fault)} (account : Account thread start entries host)
    (apart : thread ≠ child) (started : thread < host.nextThread) (step : Step) :
    Account thread start entries (host.run child step).2 := by
  cases step with
  | call call => exact account.other call apart
  | thread steps =>
      have fresh : thread ≠ host.nextThread := Nat.ne_of_lt started
      exact (account.spawn fresh).runAll_other fresh (Nat.lt_succ_of_lt started) steps

/-- The program of another thread adds nothing to the account. -/
theorem Account.runAll_other {thread child : Thread} {start host : Host}
    {entries : List (Call × Option Fault)} (account : Account thread start entries host)
    (apart : thread ≠ child) (started : thread < host.nextThread) (steps : List Step) :
    Account thread start entries (host.runAll child steps).2 := by
  cases steps with
  | nil => exact account
  | cons step steps =>
      exact (account.run_other apart started step).runAll_other apart
        (Nat.lt_of_lt_of_le started (nextThread_run host child step)) steps

end

/-- The calls that a thread makes itself when it takes these steps. -/
def Step.own (steps : List Step) : List Call :=
  steps.filterMap fun
    | .call made => some made
    | .thread _ => none

theorem Account.runAll {thread : Thread} {start host : Host} {entries : List (Call × Option Fault)}
    (account : Account thread start entries host) (started : thread < host.nextThread)
    (steps : List Step) :
    ∃ further, further.map Prod.fst = Step.own steps ∧
      Account thread start (entries ++ further) (host.runAll thread steps).2 := by
  induction steps generalizing host entries with
  | nil => exact ⟨[], rfl, (List.append_nil entries).symm ▸ account⟩
  | cons step steps ih =>
      have later : thread < (host.run thread step).2.nextThread :=
        Nat.lt_of_lt_of_le started (nextThread_run host thread step)
      cases step with
      | call call =>
          obtain ⟨further, same, final⟩ := ih (account.own call) later
          refine ⟨(call, call.fault host.registry) :: further, ?_, ?_⟩
          · rw [List.map_cons, same]
            rfl
          · rwa [List.append_assoc] at final
      | thread block =>
          have fresh : thread ≠ host.nextThread := Nat.ne_of_lt started
          have joined := (account.spawn fresh).runAll_other fresh (Nat.lt_succ_of_lt started) block
          exact ih joined later

/-- What a program gets back and what it makes of the registry stay the same under any policy for
    error slots, with any reports added or left out, and with any of its steps moved to threads
    that are waited for. What a thread is told by `explain` follows from its own calls and from how
    these ended, whatever other threads there are and whatever becomes of their calls; the calls
    that a program makes itself are such an account, however its steps go on in other threads. -/
theorem error_reports_influence_nothing :
    (∀ (environment other : Environment) (steps others : List Step),
      environment Contract.maxLiveHandlesVariable = other Contract.maxLiveHandlesVariable →
      Akin steps others →
      let first := (Host.start environment).runAll 0 steps
      let second := (Host.start other).runAll 0 others
      Step.repliesAll steps first.1 = Step.repliesAll others second.1 ∧
        (Step.repliesAll steps first.1).map Prod.fst = Step.plainAll steps ∧
        first.2.registry = second.2.registry) ∧
    (∀ (thread other : Thread) (first second host further : Host)
      (entries : List (Call × Option Fault)),
      Account thread first entries host → Account other second entries further →
      first.clearsOnSuccess = second.clearsOnSuccess →
      first.explain thread = second.explain other →
      (host.call thread .explain).1 = (further.call other .explain).1) ∧
    ∀ (host : Host) (thread : Thread) (steps : List Step), thread < host.nextThread →
      ∃ entries, entries.map Prod.fst = Step.own steps ∧
        Account thread host entries (host.runAll thread steps).2 := by
  refine ⟨?_, ?_, ?_⟩
  · intro environment other steps others limit akin first second
    have served := runAll_serve (.start environment) 0 steps
    have servedOthers := runAll_serve (.start other) 0 others
    -- Both hosts start from the same registry, and both programs are the same list of calls.
    have registry : (Host.start environment).registry = (Host.start other).registry := by
      simp only [Host.start, Config.ofEnvironment, limit]
    rw [← akin.plainAll_eq, ← registry, ← served] at servedOthers
    obtain ⟨replies, after⟩ := Prod.mk.inj servedOthers
    refine ⟨replies.symm, ?_, after.symm⟩
    rw [show Step.repliesAll steps first.1 = _ from congrArg Prod.fst served, map_fst_serveAll]
  · intro thread other first second host further entries account others policy slot
    rw [Host.call, Host.call, account.explain_eq, others.explain_eq, policy, slot]
  · intro host thread steps started
    exact Account.start.runAll started steps

/-- A failing pop between two calls, made by a thread of a thread beside some reports and under
    another policy: the replies are the same, and the main thread is not told of the failure. -/
theorem pop_in_nested_thread :
    let keeping : Environment := fun name =>
      if name = Contract.clearErrorOnSuccessVariable then some [48] else none
    let pop : Step := .call (.request (.popString 1))
    let count : Step := .call (.request (.count 1))
    let steps : List Step := [.call (.request .newPayload), pop, count]
    let others : List Step := [.call (.request .newPayload),
      .thread [.call (.setError (some [104])), .thread [pop]], .call .explain, count]
    let first := (Host.start keeping).runAll 0 steps
    let second := (Host.start fun _ => none).runAll 0 others
    let host := ((Host.start fun _ => none).call 0 (.request .newPayload)).2
    let further := (host.startThread.2.call 1 (.request (.popString 1))).2
    Akin steps others ∧ Step.repliesAll steps first.1 = Step.repliesAll others second.1 ∧
      (Step.repliesAll steps first.1).map Prod.snd = [.handle 1, .string none, .size 0] ∧
      (further.call 0 .explain).1 = .string none := by
  intro keeping pop count steps others first second host further
  obtain ⟨ofPrograms, ofThreads, -⟩ := error_reports_influence_nothing
  have moved : Akin [pop] [.call (.setError (some [104])), .thread [pop]] :=
    .trans (.thread [] [pop] []) (.report [] [.thread [pop]] rfl)
  have akin : Akin steps others :=
    .trans (.thread [.call (.request .newPayload)] [pop] [count])
      (.trans (.inside [.call (.request .newPayload)] [count] moved) (.report [_, _] [count] rfl))
  have same := ofPrograms keeping (fun _ => none) steps others (by decide) akin
  have started : Account 0 (.start fun _ => none) [(.request .newPayload, none)] host :=
    Account.start.own (.request .newPayload)
  have undisturbed : Account 0 (.start fun _ => none) [(.request .newPayload, none)] further :=
    (started.spawn (by decide)).other (.request (.popString 1)) (by decide)
  have told := ofThreads 0 0 _ _ _ _ _ undisturbed started rfl rfl
  exact ⟨akin, same.1, by decide +kernel, told.trans (by decide +kernel)⟩

end PayloadExchange.Boundary
