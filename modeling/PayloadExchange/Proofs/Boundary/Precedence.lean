import PayloadExchange.Proofs.Boundary.Complaints
import PayloadExchange.Proofs.Boundary.DeadCalls

/-! # Which fault comes first

Several things may be wrong with a request at once. Its pointers are judged first, by themselves;
then its handles, in the order of their lookups; then the kind of the object; and the payload has
the last word. `Blamed` says so for each fault, and a request fails with the one that is to blame.
-/

namespace PayloadExchange.Boundary

namespace Request

/-- The same request on another object and for another index. -/
def redirect (handle : Handle) (index : Int64) : Request → Request
  | dump _ => dump handle
  | delete _ => delete handle
  | interfaceOf _ => interfaceOf handle
  | operationOf _ => operationOf handle
  | interfaceIs _ text => interfaceIs handle text
  | operationIs _ text => operationIs handle text
  | setJson _ text => setJson handle text
  | getJson _ => getJson handle
  | pushString _ text => pushString handle text
  | pushBlock _ block => pushBlock handle block
  | popString _ => popString handle
  | popBlock _ block => popBlock handle block
  | insertString _ _ text => insertString handle index text
  | insertBlock _ _ block => insertBlock handle index block
  | setString _ _ text => setString handle index text
  | setBlock _ _ block => setBlock handle index block
  | getString _ _ => getString handle index
  | getBlock _ _ block => getBlock handle index block
  | getSize _ _ => getSize handle index
  | remove _ _ => remove handle index
  | count _ => count handle
  | clear _ => clear handle
  | assign _ _ => assign handle handle
  | request => request

/-- The same request with another block, if it brings one along. -/
def withBlock (block : Block) : Request → Request
  | pushBlock handle _ => pushBlock handle block
  | popBlock handle _ => popBlock handle block
  | insertBlock handle index _ => insertBlock handle index block
  | setBlock handle index _ => setBlock handle index block
  | getBlock handle index _ => getBlock handle index block
  | request => request

/-- The fault that a request on objects is to fail with. -/
inductive Blamed (registry : Registry) (request : Request) : Fault → Prop where
  | pointer {fault : Fault} : request.pointers = .error fault → Blamed registry request fault
  | handle {handle : Handle} : request.pointers = .ok () →
      registry.Reaches request.names handle → handle ∉ registry.liveHandles →
      Blamed registry request (.deadHandle handle)
  | kind {handle : Handle} {payload : Payload} : request.pointers = .ok () →
      request.names = [handle] → registry.lookup handle = .ok (.data payload) →
      request.needsCommand = true → Blamed registry request .notCommand
  | payload {handle : Handle} {object : Object} {fault : Fault} : request.pointers = .ok () →
      request.names = [handle] → registry.lookup handle = .ok object →
      (request.needsCommand = true → object.kind = .command) →
      request.complaint object.payload = some fault → Blamed registry request fault

end Request

def Call.names : Call → List Handle
  | .request asked => asked.names
  | .kind handle => [handle]
  | .explain | .setError _ | .releaseNull | .release _ | .version | .schema => []

def Call.pointers : Call → Except Fault Unit
  | .request asked => asked.pointers
  | .kind _ | .explain | .setError _ | .releaseNull | .release _ | .version | .schema => .ok ()

/-- The call returns the sign of a failure and leaves the text of the fault to its caller. -/
def Host.Refuses (host : Host) (thread : Thread) (request : Request) (fault : Fault) : Prop :=
  let after := host.call thread (.request request)
  after.1 = request.failure ∧ after.2.explain thread = some (Text.utf8 fault.report.display)

/-- Of all that is wrong with a request on objects, what is to blame is reported. -/
structure Host.Judges (host : Host) (request : Request) : Prop where
  fails_iff : ∀ fault,
    (request.run host.registry).1 = .error fault ↔ request.Blamed host.registry fault
  refuses : ∀ (thread : Thread) (fault : Fault), request.Blamed host.registry fault →
    host.Refuses thread request fault
  pointers : ∀ fault, request.pointers = .error fault ↔ request.Unacceptable fault
  /-- A pointer that is not accepted is accepted nowhere, whatever the object and the index. -/
  nowhere : ∀ fault, request.Unacceptable fault →
    ∀ (other : Host) (caller : Thread) (handle : Handle) (index : Int64),
      (request.redirect handle index).failure = request.failure ∧
        other.Refuses caller (request.redirect handle index) fault
  /-- A dead handle is refused whatever the index, the contents of the block and the registry. -/
  dead : ∀ handle, request.pointers = .ok () → request.names = [handle] →
    ∀ (other : Host) (caller : Thread) (index : Int64) (contents : Bytes),
      handle ∉ other.registry.liveHandles →
        other.Refuses caller ((request.redirect handle index).withBlock (.bytes contents))
          (.deadHandle handle)
  /-- The payload is heard last, and it decides on the faults that lie in it. -/
  payload : ∀ fault, fault.ofPayload = true → (request.Blamed host.registry fault ↔
    request.pointers = .ok () ∧ ∃ handle object, request.names = [handle] ∧
      host.registry.lookup handle = .ok object ∧
      (request.needsCommand = true → object.kind = .command) ∧
      request.complaint object.payload = some fault)
  /-- The null pointer passes for the empty block. -/
  emptyBlock : request.block? = some (.null 0) → ∀ thread,
    host.call thread (.request (request.withBlock (.bytes [])))
      = host.call thread (.request request)

namespace Request

variable {registry : Registry} {request : Request}

theorem names_single_or_assign (named : request.names ≠ []) :
    (∃ handle, request.names = [handle]) ∨ ∃ target source, request = assign target source := by
  cases request with
  | deleteAll | leakCheck | newCommand | newPayload => exact absurd rfl named
  | assign target source => exact .inr ⟨target, source, rfl⟩
  | _ => exact .inl ⟨_, rfl⟩

theorem assign_fault {target source : Handle} (known : target ∈ registry.liveHandles)
    (found : source ∈ registry.liveHandles) :
    faultOf ((assign target source).run registry).1 = none := by
  obtain ⟨object, live⟩ := Registry.mem_liveHandles.1 known
  obtain ⟨copied, stored⟩ := Registry.mem_liveHandles.1 found
  simp only [run, Registry.assign, stored,
    Registry.editPayload_of_live (Registry.lookup_eq_ok_iff.1 live)]
  rfl

theorem blamed_of_run (formed : registry.WellFormed) (named : request.names ≠ []) {fault : Fault}
    (failed : (request.run registry).1 = .error fault) : request.Blamed registry fault := by
  cases accepted : request.pointers with
  | error refused =>
      rw [run_of_pointers named accepted] at failed
      obtain rfl := Except.error.inj failed
      exact .pointer accepted
  | ok found =>
      -- Where a lookup comes to a dead handle, that is what the request fails with.
      have dead {handle : Handle} (reaches : registry.Reaches request.names handle)
          (dead : handle ∉ registry.liveHandles) : request.Blamed registry fault := by
        rw [run_of_dead dead accepted reaches] at failed
        obtain rfl := Except.error.inj failed
        exact .handle accepted reaches dead
      rcases names_single_or_assign named with ⟨handle, single⟩ | ⟨target, source, rfl⟩
      · by_cases known : handle ∈ registry.liveHandles
        · obtain ⟨object, live⟩ := Registry.mem_liveHandles.1 known
          by_cases kind : request.needsCommand = true → object.kind = .command
          · have judged := run_complaint formed accepted single live kind
            exact .payload accepted single live kind (judged ▸ faultOf_eq_some.2 failed)
          · obtain ⟨needs, other⟩ := Classical.not_imp.1 kind
            cases object with
            | command command => exact absurd rfl other
            | data payload =>
                have refused := run_of_bare accepted single live needs
                obtain rfl := Except.error.inj (failed.symm.trans (faultOf_eq_some.1 refused))
                exact .kind accepted single live needs
        · exact dead ⟨[], [], single, nofun⟩ known
      · by_cases found : source ∈ registry.liveHandles
        · by_cases known : target ∈ registry.liveHandles
          · have fine := assign_fault known found
            rw [failed] at fine
            cases fine
          · refine dead ⟨[source], [], rfl, fun other member => ?_⟩ known
            rwa [List.mem_singleton.1 member]
        · exact dead ⟨[], [target], rfl, nofun⟩ found

theorem run_of_blamed (formed : registry.WellFormed) (named : request.names ≠ []) {fault : Fault}
    (blamed : request.Blamed registry fault) : (request.run registry).1 = .error fault := by
  cases blamed with
  | pointer refused => exact congrArg Prod.fst (run_of_pointers named refused)
  | handle accepted reaches dead => exact congrArg Prod.fst (run_of_dead dead accepted reaches)
  | kind accepted single live needs =>
      exact faultOf_eq_some.1 (run_of_bare accepted single live needs)
  | payload accepted single live kind judged =>
      exact faultOf_eq_some.1 ((run_complaint formed accepted single live kind).trans judged)

theorem names_redirect (handle : Handle) (index : Int64) :
    (request.redirect handle index).names = [] ↔ request.names = [] := by
  cases request <;> simp [redirect, names]

theorem pointers_redirect (handle : Handle) (index : Int64) :
    (request.redirect handle index).pointers = request.pointers := by
  cases request <;> rfl

theorem failure_redirect (handle : Handle) (index : Int64) :
    (request.redirect handle index).failure = request.failure := by
  cases request <;> rfl

theorem names_redirect_withBlock {handle : Handle} (single : request.names = [handle])
    (index : Int64) (block : Block) :
    ((request.redirect handle index).withBlock block).names = [handle] := by
  cases request with
  | deleteAll | leakCheck | newCommand | newPayload | assign => cases single
  | _ => rfl

theorem pointers_withBlock (accepted : request.pointers = .ok ()) (contents : Bytes) :
    (request.withBlock (.bytes contents)).pointers = .ok () := by
  cases request with
  | pushBlock | popBlock | insertBlock | setBlock | getBlock => rfl
  | _ => exact accepted

theorem run_withBlock (null : request.block? = some (.null 0)) (registry : Registry) :
    (request.withBlock (.bytes [])).run registry = request.run registry := by
  cases request with
  | pushBlock handle block | popBlock handle block | insertBlock handle index block
  | setBlock handle index block | getBlock handle index block =>
      obtain rfl := Option.some.inj null
      rfl
  | _ => cases null

theorem failure_withBlock (null : request.block? = some (.null 0)) :
    (request.withBlock (.bytes [])).failure = request.failure := by
  cases request with
  | pushBlock handle block | popBlock handle block | insertBlock handle index block
  | setBlock handle index block | getBlock handle index block =>
      obtain rfl := Option.some.inj null
      rfl
  | _ => cases null

theorem Blamed.quoted (named : request.names ≠ []) {fault : Fault}
    (blamed : request.Blamed registry fault) : fault.quoted = none := by
  cases blamed with
  | pointer refused =>
      cases (pointers_eq_error_iff named).1 refused <;> rfl
  | handle | kind => rfl
  | payload _ _ _ _ judged => exact Fault.quoted_of_ofPayload (complaint_ofPayload judged)

/-- Only the payload brings up what lies in a payload. -/
theorem blamed_ofPayload_iff (named : request.names ≠ []) {fault : Fault}
    (last : fault.ofPayload = true) : request.Blamed registry fault ↔
      request.pointers = .ok () ∧ ∃ handle object, request.names = [handle] ∧
        registry.lookup handle = .ok object ∧
        (request.needsCommand = true → object.kind = .command) ∧
        request.complaint object.payload = some fault := by
  constructor
  · intro blamed
    cases blamed with
    | pointer refused =>
        have earlier := ((pointers_eq_error_iff named).1 refused).ofPayload
        exact absurd last (earlier ▸ Bool.false_ne_true)
    | handle | kind => cases last
    | payload accepted single live kind judged =>
        exact ⟨accepted, _, _, single, live, kind, judged⟩
  · rintro ⟨accepted, handle, object, single, live, kind, judged⟩
    exact .payload accepted single live kind judged

end Request

namespace Host

variable {host : Host} {thread : Thread} {request : Request}

theorem refuses_of_error {fault : Fault} (plain : fault.quoted = none)
    (failed : (request.run host.registry).1 = .error fault) :
    host.Refuses thread request fault :=
  ⟨request_error failed, explain_request_error (Fault.clean_of_none plain) failed⟩

theorem refuses_dead {handle : Handle} (dead : handle ∉ host.registry.liveHandles)
    (accepted : request.pointers = .ok ())
    (reaches : host.registry.Reaches request.names handle) :
    host.Refuses thread request (.deadHandle handle) :=
  refuses_of_error rfl (congrArg Prod.fst (Request.run_of_dead dead accepted reaches))

theorem call_withBlock (null : request.block? = some (.null 0)) :
    host.call thread (.request (request.withBlock (.bytes [])))
      = host.call thread (.request request) := by
  simp only [call, Host.request, Request.run_withBlock null, Request.failure_withBlock null]

theorem judges (formed : host.registry.WellFormed) (named : request.names ≠ []) :
    host.Judges request where
  fails_iff _ := ⟨Request.blamed_of_run formed named, Request.run_of_blamed formed named⟩
  refuses _ _ blamed :=
    refuses_of_error (blamed.quoted named) (Request.run_of_blamed formed named blamed)
  pointers _ := Request.pointers_eq_error_iff named
  nowhere := by
    intro fault unacceptable other caller handle index
    have refused := (Request.pointers_eq_error_iff named).2 unacceptable
    have asked : (request.redirect handle index).names ≠ [] :=
      fun none => named ((Request.names_redirect handle index).1 none)
    have blamed : (request.redirect handle index).Blamed other.registry fault :=
      .pointer ((Request.pointers_redirect handle index).trans refused)
    have ran : (request.redirect handle index).run other.registry = (.error fault, _) :=
      Request.run_of_pointers asked ((Request.pointers_redirect handle index).trans refused)
    exact ⟨Request.failure_redirect handle index,
      refuses_of_error (blamed.quoted asked) (congrArg Prod.fst ran)⟩
  dead := by
    intro handle accepted single other caller index contents dead
    have spared := (Request.pointers_redirect handle index).trans accepted
    refine refuses_dead dead (Request.pointers_withBlock spared contents) ?_
    exact ⟨[], [], Request.names_redirect_withBlock single index _, nofun⟩
  payload _ last := Request.blamed_ofPayload_iff named last
  emptyBlock null _ := call_withBlock null

end Host

/-- To ask for the kind of a dead handle is no failure, and nothing is reported. -/
theorem kind_of_dead_handle_unreported :
    ¬ ∀ (environment : Environment) (host : Host) (thread : Thread) (call : Call)
      (handle : Handle), Reachable environment host → call.names = [handle] →
      call.pointers = .ok () → handle ∉ host.registry.liveHandles →
      (host.call thread call).2.explain thread = some (Text.utf8
        ("Invalid argument: handle " ++ toString handle.toNat ++ " is invalid")) := by
  intro reported
  have told := reported (fun _ => none) _ 0 (.kind 1) 1 .start rfl rfl (by decide +kernel)
  have untold : (((Host.start fun _ => none).call 0 (.kind 1)).2.explain 0) = none := by
    decide +kernel
  rw [untold] at told
  cases told

/-- A request on objects fails with the one fault that is to blame: that of a pointer, by itself;
    else that of the first dead handle; else that of the kind; and else what the payload says. A
    copy looks for its source first. To ask for a kind never fails. -/
theorem requests_judged_in_order :
    (∀ (environment : Environment) (host : Host), Reachable environment host →
      (∀ request : Request, request.names ≠ [] → host.Judges request) ∧
      (∀ (thread : Thread) (target source : Handle),
        (source ∉ host.registry.liveHandles →
          host.Refuses thread (.assign target source) (.deadHandle source)) ∧
        (source ∈ host.registry.liveHandles → target ∉ host.registry.liveHandles →
          host.Refuses thread (.assign target source) (.deadHandle target))) ∧
      ∀ (thread : Thread) (handle : Handle),
        host.call thread (.kind handle) = (.kind (host.registry.kindOf handle), host) ∧
          (handle ∉ host.registry.liveHandles → host.registry.kindOf handle = .invalid)) ∧
    (∀ handle, (Fault.deadHandle handle).report
      = ⟨.invalidArgument, "handle " ++ toString handle.toNat ++ " is invalid"⟩) ∧
    Fault.nullString.report = ⟨.invalidArgument, "unexpected NULL string"⟩ ∧
    Fault.notUtf8.report = ⟨.invalidArgument, "string is not valid UTF-8"⟩ ∧
    Fault.nullBlock.report = ⟨.invalidArgument, "unexpected NULL pointer"⟩ ∧
    Fault.notCommand.report = ⟨.invalidArgument, "object does not support the cmd interface"⟩ := by
  refine ⟨?_, fun _ => rfl, rfl, rfl, rfl, rfl⟩
  intro environment host reachable
  refine ⟨fun request named => Host.judges reachable.wellFormed named, ?_, ?_⟩
  · intro thread target source
    refine ⟨fun unknown => ?_, fun known unknown => ?_⟩
    · exact Host.refuses_dead unknown rfl ⟨[], [target], rfl, nofun⟩
    · refine Host.refuses_dead unknown rfl ⟨[source], [], rfl, fun other member => ?_⟩
      rwa [List.mem_singleton.1 member]
  · intro thread handle
    exact ⟨rfl, fun dead => (Registry.disowns_of_dead dead).kind⟩

/-- Beside a bare payload, requests with which several things are wrong: each is told of the
    first of them. -/
theorem first_of_several_faults :
    let environment : Environment := fun _ => none
    let host := ((Host.start environment).call 0 (.request .newPayload)).2
    Reachable environment host ∧
      host.Refuses 0 (.setJson 9 (some [255])) .notUtf8 ∧
      host.Refuses 0 (.interfaceIs 9 none) .nullString ∧
      host.Refuses 0 (.insertString 9 7 (some [104])) (.deadHandle 9) ∧
      host.Refuses 0 (.assign 8 9) (.deadHandle 9) ∧
      host.Refuses 0 (.interfaceIs 1 (some [])) .notCommand ∧
      host.Refuses 0 (.setBlock 1 (-1) (.null 0)) (.indexOutOfRange (-1) 0) := by
  intro environment host
  obtain ⟨judged, -⟩ := requests_judged_in_order
  have reachable : Reachable environment host := .call _ .start (by decide)
  obtain ⟨judges, copies, -⟩ := judged environment host reachable
  have unknown : 9 ∉ host.registry.liveHandles := by decide +kernel
  refine ⟨reachable, ?_, ?_, ?_, (copies 0 8 9).1 unknown, ?_, ?_⟩
  · have broken : Text.ofUtf8? (Bytes.beforeNul [255]) = none := by decide +kernel
    have judged := judges (.setJson 9 (some [255])) (by decide)
    exact judged.refuses 0 _ (.pointer ((judged.pointers _).2 (.notUtf8 rfl broken)))
  · exact (judges _ (by decide)).refuses 0 _ (.pointer rfl)
  · exact (judges _ (by decide)).refuses 0 _ (.handle rfl ⟨[], [], rfl, nofun⟩ unknown)
  · exact (judges _ (by decide)).refuses 0 _ (.kind rfl rfl rfl rfl)
  · exact (judges _ (by decide)).refuses 0 _ (.payload rfl rfl rfl nofun rfl)

end PayloadExchange.Boundary
