import PayloadExchange.Proofs.Boundary.Chronicle
import PayloadExchange.Proofs.Registry.DeadHandles
import PayloadExchange.Proofs.Sequence

/-! # Calls on dead handles

A request with acceptable pointers comes to its handles next, and ends at the first that is
dead. While the numbers last none is issued twice, so a handle that was withdrawn once is dead in
all that follows, for operations and for calls of any thread.
-/

namespace PayloadExchange

theorem Fault.display_deadHandle (handle : Handle) : (Fault.deadHandle handle).report.display
    = "Invalid argument: handle " ++ toString handle.toNat ++ " is invalid" := by
  change "Invalid argument: " ++ ("handle " ++ toString handle.toNat ++ " is invalid") = _
  rw [← String.append_assoc, ← String.append_assoc]
  rfl

namespace Boundary

open Registry (Event Course Operation Gone insertions history)

namespace Request

variable {registry : Registry} {handle : Handle} {request : Request}

theorem receiving_refused {α : Type} {received : Except Fault α} {fault : Fault}
    (refused : discard received = .error fault) (proceed : α → Except Fault Success × Registry) :
    receiving registry received proceed = (.error fault, registry) := by
  rw [discard_eq_error.1 refused, receiving]

theorem receiving_accepted {α : Type} {received : Except Fault α}
    (accepted : discard received = .ok ()) {proceed : α → Except Fault Success × Registry}
    {outcome : Except Fault Success × Registry} (each : ∀ value, proceed value = outcome) :
    receiving registry received proceed = outcome := by
  cases received with
  | ok value => exact each value
  | error fault => cases accepted

theorem run_of_pointers (named : request.names ≠ []) {fault : Fault}
    (refused : request.pointers = .error fault) :
    request.run registry = (.error fault, registry) := by
  cases request with
  | deleteAll | leakCheck | newCommand | newPayload => exact absurd rfl named
  | dump | delete | interfaceOf | operationOf | getJson | popString | getString | getSize | remove
  | count | clear | assign => cases refused
  | interfaceIs | operationIs | pushString | insertString | setString | setJson | pushBlock
  | popBlock | insertBlock | setBlock | getBlock => exact receiving_refused refused _

variable (dead : handle ∉ registry.liveHandles)
include dead

theorem reading_of_dead (look : Object → Except Fault Success) :
    reading registry handle look = (.error (.deadHandle handle), registry) := by
  rw [reading, Registry.lookup_of_dead dead]
  rfl

theorem changing_of_dead (change : Payload → Except Fault (Success × Payload)) :
    changing registry handle change = (.error (.deadHandle handle), registry) :=
  Registry.editPayload_of_dead dead _

/-- A request ends at the first dead handle that it comes to. -/
theorem run_of_dead (accepted : request.pointers = .ok ())
    (reaches : registry.Reaches request.names handle) :
    request.run registry = (.error (.deadHandle handle), registry) := by
  cases request with
  | deleteAll | leakCheck | newCommand | newPayload =>
      obtain ⟨before, after, shape, -⟩ := reaches
      simp [names] at shape
  | dump named | interfaceOf named | operationOf named | getJson named | getString named index
  | getSize named index | count named =>
      obtain rfl := reaches.single
      exact reading_of_dead dead _
  | interfaceIs named text | operationIs named text | getBlock named index block =>
      -- The pointers, which come first, are acceptable.
      obtain rfl := reaches.single
      exact receiving_accepted accepted fun _ => reading_of_dead dead _
  | setJson named text | pushString named text | pushBlock named block | popBlock named block
  | insertString named index text | insertBlock named index block | setString named index text
  | setBlock named index block =>
      obtain rfl := reaches.single
      exact receiving_accepted accepted fun _ => changing_of_dead dead _
  | remove named index =>
      obtain rfl := reaches.single
      exact changing_of_dead dead _
  | clear named =>
      obtain rfl := reaches.single
      rw [run]
      exact changing_of_dead dead _
  | popString named =>
      obtain rfl := reaches.single
      exact Registry.editPayload_of_dead dead popStringFrom
  | delete named =>
      obtain rfl := reaches.single
      simp only [run, Registry.delete, Registry.take_of_dead dead]
      rfl
  | assign target source =>
      -- The source is looked up before the target.
      rcases reaches.pair with rfl | ⟨live, rfl⟩
      · simp only [run, Registry.assign_from_dead dead]
        rfl
      · simp only [run, Registry.assign_to_dead dead live]
        rfl

theorem run_of_single_dead (named : request.names = [handle]) :
    ∃ fault, request.run registry = (.error fault, registry) := by
  cases accepted : request.pointers with
  | error fault => exact ⟨fault, run_of_pointers (by simp [named]) accepted⟩
  | ok found => exact ⟨_, run_of_dead dead accepted ⟨[], [], named, nofun⟩⟩

end Request

/-- Every call on the handle ends in the one fault, in all its words, and changes nothing but
    the slot of the thread. -/
structure Host.Disowns (host : Host) (handle : Handle) : Prop where
  registry : host.registry.Disowns handle
  kind : ∀ thread, host.call thread (.kind handle) = (.kind .invalid, host)
  request : ∀ (thread : Thread) (request : Request), request.pointers = .ok () →
    host.registry.Reaches request.names handle →
    let after := host.call thread (.request request)
    after.1 = request.failure ∧ after.2.registry = host.registry ∧
      after.2.explain thread
        = some (Text.utf8 ("Invalid argument: handle " ++ toString handle.toNat ++ " is invalid"))

theorem Host.disowns_of_dead {host : Host} {handle : Handle}
    (dead : handle ∉ host.registry.liveHandles) : host.Disowns handle where
  registry := Registry.disowns_of_dead dead
  kind := by
    intro thread
    rw [call, (Registry.disowns_of_dead dead).kind]
  request := by
    intro thread request accepted reaches
    have ran := request.run_of_dead dead accepted reaches
    have failed : (request.run host.registry).1 = .error (.deadHandle handle) :=
      congrArg Prod.fst ran
    obtain ⟨reply, kept⟩ := Host.call_error ran
    refine ⟨reply, kept, ?_⟩
    rw [call, Host.explain_request_error (Fault.clean_of_none rfl) failed,
      Fault.display_deadHandle]

/-- A handle that is zero, or was withdrawn, or was not issued yet is dead: in every continuation
    of the run, whatever is asked for under it ends in one fault and changes nothing. This holds
    of operations on a registry and of the calls of any threads on the shared one. -/
theorem gone_handles_disowned :
    (∀ (config : Config) (earlier later : List Operation) (handle : Handle),
      let past := (Registry.empty config).performAll earlier
      let present := past.2.performAll later
      let events := history earlier past.1
      let further := history later present.1
      insertions (events ++ further) ≤ 18446744073709551615 → Gone events further handle →
      present.2.Disowns handle) ∧
    (∀ (environment : Environment) (earlier later : List Event) (host : Host) (handle : Handle),
      Chronicled (.start environment) (earlier ++ later) host →
      insertions (earlier ++ later) ≤ 18446744073709551615 → Gone earlier later handle →
      host.Disowns handle) ∧
    ∀ handle, (Fault.deadHandle handle).report
      = ⟨.invalidArgument, "handle " ++ toString handle.toNat ++ " is invalid"⟩ := by
  refine ⟨?_, ?_, fun _ => rfl⟩
  · intro config earlier later handle past present events further few gone
    have course : Course (.empty config) events past.2 := Course.start.performAll earlier
    have accounts := (course.performAll later).accounts few
    exact Registry.disowns_of_dead (accounts.dead_of_gone gone)
  · intro environment earlier later host handle chronicled few gone
    have accounts := chronicled.course.accounts few
    exact Host.disowns_of_dead (accounts.dead_of_gone gone)

/-- A copy to a deleted handle after a move, and a call on the handle that another thread has
    deleted. -/
theorem deleted_handles_refused :
    let past := (Registry.empty {}).performAll [.insert {}, .insert {}, .delete 1]
    let present := past.2.performAll [.move 2]
    let environment : Environment := fun _ => none
    let full := ((Host.start environment).call 0 (.request .newPayload)).2
    let host := (full.call 1 (.request (.delete 1))).2
    Gone [.issued 1, .issued 2, .removed 1] [.removed 2, .issued 3] 1 ∧
      present.2.perform (.assign 1 3) = (.error (.deadHandle 1), present.2) ∧
      Chronicled (.start environment) [.issued 1, .removed 1] host ∧
      Gone [.issued 1, .removed 1] [] 1 ∧
      (host.call 0 (.request (.pushString 1 (some [104, 105])))).2.explain 0
        = some (Text.utf8 "Invalid argument: handle 1 is invalid") := by
  intro past present environment full host
  obtain ⟨ofRuns, ofHosts, -⟩ := gone_handles_disowned
  have moved : Gone [.issued 1, .issued 2, .removed 1] [.removed 2, .issued 3] 1 :=
    .inr (.inl ⟨[], [.issued 2, .removed 1], rfl, .removed 1, by simp, rfl⟩)
  have target : present.2.Reaches [3, 1] 1 := by
    refine ⟨[3], [], rfl, fun other member => ?_⟩
    obtain rfl := List.mem_singleton.1 member
    decide +kernel
  have disowned :=
    ofRuns {} [.insert {}, .insert {}, .delete 1] [.move 2] 1 (by decide +kernel) moved
  have chronicled : Chronicled (.start environment) ([.issued 1, .removed 1] ++ []) host :=
    (Chronicled.start.call 0 (.request .newPayload)).call 1 (.request (.delete 1))
  have deleted : Gone [.issued 1, .removed 1] [] 1 :=
    .inr (.inl ⟨[], [.removed 1], rfl, .removed 1, by simp, rfl⟩)
  have refused := ofHosts environment _ [] host 1 chronicled (by decide) deleted
  exact ⟨moved, disowned.perform (.assign 1 3) nofun target, chronicled, deleted,
    (refused.request 0 (.pushString 1 (some [104, 105])) rfl ⟨[], [], rfl, nofun⟩).2.2⟩

end Boundary

end PayloadExchange
