import PayloadExchange.Proofs.Boundary.Chronicle
import PayloadExchange.Proofs.Registry.Capacity

/-! # The limit on the shared registry

The environment sets the limit of the registry that all threads share. Both requests that store
an object come to it after their pointers and names, and the two that remove objects make room
for the next request of any thread.
-/

namespace PayloadExchange

theorem Fault.display_registryFull (limit : UInt32) : (Fault.registryFull limit).report.display
    = "Invalid operation: handle table is full (" ++ toString limit.toNat
      ++ " live handles)" := by
  change "Invalid operation: "
    ++ ("handle table is full (" ++ toString limit.toNat ++ " live handles)") = _
  rw [← String.append_assoc, ← String.append_assoc]
  rfl

namespace Boundary

open Registry (Operation Course)

/-- The request is to store this object, and there is nothing wrong with its pointers and names. -/
inductive Request.Stores : Request → Object → Prop where
  | payload : Stores .newPayload (.data .empty)
  | command {interface operation : StringPointer} {ofInterface ofOperation : String}
      {command : Command} :
      receiveText interface = .ok ofInterface → receiveText operation = .ok ofOperation →
      Command.make ofInterface ofOperation = .ok command →
      Stores (.newCommand interface operation) (.command command)

namespace Request.Stores

variable {request : Request} {object : Object} (stores : request.Stores object)
include stores

theorem run (registry : Registry) : request.run registry = storing registry (.ok object) := by
  cases stores with
  | payload => rfl
  | command interface operation made =>
      simp only [Request.run, interface, operation, made, bind, Except.bind]
      rfl

theorem failure : request.failure = .handle 0 := by
  cases stores with
  | payload => rfl
  | command => rfl

variable {host : Host}

theorem call_of_insert_ok {fresh : Handle} {grown : Registry}
    (inserted : host.registry.insert object = .ok (fresh, grown)) (thread : Thread) :
    (host.call thread (.request request)).1 = .handle fresh ∧
      (host.call thread (.request request)).1.isFailure = false := by
  have ran : (request.run host.registry).1 = .ok (.handle fresh) := by
    rw [stores.run, storing, show Except.ok object >>= host.registry.insert
      = .ok (fresh, grown) from inserted]
  have answer : (host.call thread (.request request)).1 = .handle fresh := Host.request_ok ran
  refine ⟨answer, ?_⟩
  -- A handle is told apart from the sign of a failure since none is zero.
  obtain ⟨-, rfl, -⟩ := Registry.insert_eq_ok inserted
  rw [answer]
  exact beq_eq_false_iff_ne.2 host.registry.issue_ne_zero

theorem call_of_insert_error {fault : Fault}
    (refused : host.registry.insert object = .error fault) (thread : Thread) :
    (host.call thread (.request request)).1 = .handle 0 ∧
      (host.call thread (.request request)).2.registry = host.registry ∧
      (host.call thread (.request request)).2.explain thread
        = some (Text.utf8 ("Invalid operation: handle table is full ("
          ++ toString host.registry.config.maxLiveHandles.toNat ++ " live handles)")) := by
  have ran : request.run host.registry = (.error fault, host.registry) := by
    rw [stores.run, storing, show Except.ok object >>= host.registry.insert
      = .error fault from refused]
  have failed : (request.run host.registry).1 = .error fault := congrArg Prod.fst ran
  obtain ⟨-, rfl⟩ := Registry.insert_eq_error refused
  obtain ⟨reply, kept⟩ := Host.call_error ran
  refine ⟨reply.trans stores.failure, kept, ?_⟩
  rw [Host.call, Host.explain_request_error (Fault.clean_of_none rfl) failed,
    Fault.display_registryFull]

end Request.Stores

/-- The next request to store an object succeeds, whichever thread makes it and whatever else
    is called before it. -/
def Host.HasRoom (host : Host) : Prop :=
  ∀ events later, Chronicled host events later → (∀ fresh, .issued fresh ∉ events) →
    ∀ (thread : Thread) (request : Request) (object : Object), request.Stores object →
      (later.call thread (.request request)).1.isFailure = false

theorem Host.hasRoom {host : Host} (room : host.registry.HasRoom) : host.HasRoom := by
  intro events later chronicled none thread request object stores
  obtain ⟨stored, inserted⟩ := room events later.registry chronicled.course none object
  exact (stores.call_of_insert_ok inserted thread).2

/-- What a limit on live objects, or none, means for a host. -/
structure Host.Capped (limit : UInt32) (host : Host) : Prop where
  registry : Registry.Capped limit host.registry
  stores : ∀ (thread : Thread) (request : Request) (object : Object), request.Stores object →
    ((host.call thread (.request request)).1.isFailure = false
      ↔ limit = 0 ∨ host.registry.count < limit.toNat)
  refuses : ∀ (thread : Thread) (request : Request) (object : Object), request.Stores object →
    let after := host.call thread (.request request)
    after.1.isFailure = true →
      after.1 = .handle 0 ∧ after.2.registry = host.registry ∧
        after.2.explain thread
          = some (Text.utf8 ("Invalid operation: handle table is full (" ++ toString limit.toNat
            ++ " live handles)"))
  afterDelete : ∀ (thread : Thread) (handle : Handle),
    (host.call thread (.request (.delete handle))).1.isFailure = false →
      (host.call thread (.request (.delete handle))).2.HasRoom
  afterDeleteAll : ∀ thread : Thread, (host.call thread (.request .deleteAll)).2.HasRoom

theorem Host.capped {host : Host} (within : host.registry.Within) :
    host.Capped host.registry.config.maxLiveHandles where
  registry := within.capped
  stores := by
    intro thread request object stores
    rw [← within.capped.admits object]
    constructor
    · intro succeeded
      cases inserted : host.registry.insert object with
      | ok stored => exact ⟨stored, rfl⟩
      | error fault =>
          rw [(stores.call_of_insert_error inserted thread).1] at succeeded
          cases succeeded
    · rintro ⟨stored, inserted⟩
      exact (stores.call_of_insert_ok inserted thread).2
  refuses := by
    intro thread request object stores after failed
    cases inserted : host.registry.insert object with
    | ok stored =>
        rw [(stores.call_of_insert_ok inserted thread).2] at failed
        cases failed
    | error fault => exact stores.call_of_insert_error inserted thread
  afterDelete := by
    -- A deletion that fails says so, so this one has removed an object.
    intro thread handle succeeded
    apply Host.hasRoom
    rw [call, Host.request_registry]
    cases deleted : host.registry.delete handle with
    | ok without =>
        simp only [Request.run, deleted]
        exact within.hasRoom_of_delete deleted
    | error fault =>
        have failed : ((Request.delete handle).run host.registry).1 = .error fault := by
          simp only [Request.run, deleted]
        rw [call, Host.request_error failed] at succeeded
        cases succeeded
  afterDeleteAll := by
    intro thread
    apply Host.hasRoom
    rw [call, Host.request_registry]
    exact host.registry.hasRoom_clear

/-- However a registry or a host has been worked on since it was empty, its limit is kept: it
    stores an object if and only if there is no limit or the limit is not reached, refuses it
    without a trace otherwise, and has room for one more after every removal. The limit of a
    host is the one that its environment sets. -/
theorem live_objects_capped :
    (∀ (config : Config) (operations : List Operation),
      Registry.Capped config.maxLiveHandles ((Registry.empty config).performAll operations).2) ∧
    ∀ (environment : Environment) (host : Host), Reachable environment host →
      host.Capped (Setting.count (environment Contract.maxLiveHandlesVariable) 0) := by
  constructor
  · intro config operations
    have course : Course (.empty config) _ _ := Course.start.performAll operations
    exact course.capped
  · intro environment host reachable
    obtain ⟨events, chronicled⟩ := reachable.chronicled
    have capped := Host.capped (chronicled.course.within fun _ => Nat.zero_le _)
    rw [chronicled.course.config_eq] at capped
    exact capped

/-- Under a limit of one, written with blanks around it: a thread cannot store a command beside
    the payload of another until that is deleted. -/
theorem limit_of_one_shared :
    let environment : Environment := fun name =>
      if name = Contract.maxLiveHandlesVariable then some [32, 49, 32] else none
    let full := ((Host.start environment).startThread.2.call 0 (.request .newPayload)).2
    let asked : Request := .newCommand (some [97]) (some [98])
    let free := (full.call 0 (.request (.delete 1))).2
    Reachable environment full ∧
      (full.call 1 (.request asked)).1 = .handle 0 ∧
      (full.call 1 (.request asked)).2.explain 1
        = some (Text.utf8 "Invalid operation: handle table is full (1 live handles)") ∧
      (free.call 1 (.request asked)).1.isFailure = false := by
  intro environment full asked free
  have reachable : Reachable environment full := .call _ (.spawn .start) (by decide)
  have stores : asked.Stores (.command ⟨"a", "b", {}⟩) := .command rfl rfl rfl
  have limit : Setting.count (environment Contract.maxLiveHandlesVariable) 0 = 1 := by
    decide +kernel
  have capped := live_objects_capped.2 environment full reachable
  rw [limit] at capped
  have refused : (full.call 1 (.request asked)).1.isFailure = true := by
    decide +kernel
  obtain ⟨answer, -, told⟩ := capped.refuses 1 asked _ stores refused
  have deleted := capped.afterDelete 0 1 (by decide +kernel)
  exact ⟨reachable, answer, told, deleted [] free .start nofun 1 asked _ stores⟩

end Boundary

end PayloadExchange
