import PayloadExchange.Boundary.Host
import PayloadExchange.Proofs.Boundary.Settling

/-! # Failed calls

A reply that is the sign of a failure means that the registry is what it was before the call,
and so is the block of the caller. Calls that only ask leave the registry alone in any case.
-/

namespace PayloadExchange.Boundary

def Reply.isFailure : Reply → Bool
  | handle issued => issued == 0
  | code number => number == -1
  | size count | copied count _ => count == -1
  | string bytes => bytes.isNone
  | kind _ | version _ | schema _ | nothing => false

/-- The request asks for something and has nothing to change. -/
def Request.asks : Request → Bool
  | dump _ | leakCheck | interfaceOf _ | operationOf _ | interfaceIs .. | operationIs ..
  | getJson _ | getString .. | getBlock .. | getSize .. | count _ => true
  | delete _ | deleteAll | newCommand .. | newPayload | setJson .. | pushString .. | pushBlock ..
  | popString _ | popBlock .. | insertString .. | insertBlock .. | setString .. | setBlock ..
  | remove .. | clear _ | assign .. => false

/-- The call asks for something, or is about the caller's own slot and strings. -/
def Call.asks : Call → Bool
  | request asked => asked.asks
  | kind _ | explain | setError _ | releaseNull | release _ | version | schema => true

def Call.target : Call → Option Block
  | request (.popBlock _ block) | request (.getBlock _ _ block) => some block
  | _ => none

theorem Success.reply_isFailure {success : Success} (sound : success.Sound) :
    success.reply.isFailure = false := by
  have counted {n : Nat} (small : n < 9223372036854775808) : Int64.ofNat n ≠ -1 := by
    intro same
    have := congrArg Int64.toInt same
    rw [Int64.toInt_ofNat_of_lt small] at this
    simp at this
  cases success with
  | handle issued => exact beq_eq_false_iff_ne.2 sound
  | size n => exact beq_eq_false_iff_ne.2 (counted sound)
  | copied n contents => exact beq_eq_false_iff_ne.2 (counted sound)
  | truth value => cases value <;> rfl
  | done | string bytes => rfl

namespace Request

theorem failure_isFailure (request : Request) : request.failure.isFailure = true := by
  cases request <;> rfl

theorem receiving_unchanged {α : Type} {registry : Registry} (received : Except Fault α)
    {proceed : α → Except Fault Success × Registry}
    (each : ∀ value, (proceed value).2 = registry) :
    (receiving registry received proceed).2 = registry := by
  cases received with
  | ok value => exact each value
  | error fault => rfl

theorem run_asks {request : Request} (asks : request.asks = true) (registry : Registry) :
    (request.run registry).2 = registry := by
  cases request with
  | dump | leakCheck | interfaceOf | operationOf | getJson | getString | getSize | count => rfl
  | interfaceIs handle text | operationIs handle text =>
      exact receiving_unchanged (receiveBytes text) fun _ => rfl
  | getBlock handle index block => exact receiving_unchanged (receiveBlock block) fun _ => rfl
  | _ => cases asks

end Request

namespace Host

variable {host : Host} {thread : Thread} {request : Request}

theorem request_ok {success : Success}
    (done : (request.run host.registry).1 = .ok success) :
    (host.request thread request).1 = success.reply := by
  unfold Host.request
  split
  · next found after ran =>
      rw [ran] at done
      rw [Except.ok.inj done]
  · next found after ran => simp [ran] at done

theorem request_error {fault : Fault}
    (failed : (request.run host.registry).1 = .error fault) :
    (host.request thread request).1 = request.failure := by
  unfold Host.request
  split
  · next found after ran => simp [ran] at failed
  · rfl

theorem request_frame (host : Host) (thread : Thread) (request : Request) :
    ∃ slots, (host.request thread request).2
      = { host with registry := (request.run host.registry).2, slots } := by
  obtain ⟨registry, clearsOnSuccess, slots, nextThread⟩ := host
  unfold Host.request
  split
  · next success after ran =>
      rw [ran]
      cases clearsOnSuccess with
      | true => exact ⟨_, rfl⟩
      | false => exact ⟨_, rfl⟩
  · next fault after ran =>
      rw [ran]
      exact ⟨_, rfl⟩

theorem request_registry :
    (host.request thread request).2.registry = (request.run host.registry).2 := by
  obtain ⟨slots, same⟩ := host.request_frame thread request
  rw [same]

theorem call_error {fault : Fault}
    (failed : request.run host.registry = (.error fault, host.registry)) :
    (host.call thread (.request request)).1 = request.failure ∧
      (host.call thread (.request request)).2.registry = host.registry := by
  rw [Host.call, Host.request, failed]
  exact ⟨rfl, rfl⟩

/-- The sign of a failure is returned for failures and for nothing else. -/
theorem request_isFailure_iff (fits : host.registry.Fits) :
    (host.request thread request).1.isFailure = true
      ↔ ∃ fault, (request.run host.registry).1 = .error fault := by
  cases outcome : (request.run host.registry).1 with
  | ok success =>
      rw [request_ok outcome, Success.reply_isFailure (Request.run_ok fits outcome)]
      simp
  | error fault =>
      rw [request_error outcome, request.failure_isFailure]
      simp

end Host

/-- A call that returns the sign of a failure has changed nothing: the registry is as it was,
    down to the number to issue next, and so are the bytes of the caller's block. A call that
    asks leaves the registry alone also where it succeeds. -/
theorem call_failure_unchanged {host : Host} (fits : host.registry.Fits) (thread : Thread)
    (call : Call) :
    ((host.call thread call).1.isFailure = true →
      (host.call thread call).2.registry = host.registry ∧
      ∀ block, call.target = some block →
        (host.call thread call).1 = .copied (-1) block.contents) ∧
    (call.asks = true → (host.call thread call).2.registry = host.registry) := by
  cases call with
  | request request =>
      constructor
      · intro failure
        obtain ⟨fault, failed⟩ := (Host.request_isFailure_iff fits).1 failure
        constructor
        · rw [Host.call, Host.request_registry]
          exact (Request.run_error failed).2
        · intro block target
          rw [Host.call, Host.request_error failed]
          cases request with
          | popBlock handle own | getBlock handle index own =>
              obtain rfl := Option.some.inj target
              rfl
          | _ => cases target
      · intro asks
        rw [Host.call, Host.request_registry]
        exact Request.run_asks asks host.registry
  | setError text => exact ⟨fun _ => ⟨rfl, nofun⟩, fun _ => rfl⟩
  | kind handle | explain | releaseNull | release bytes | version | schema =>
      exact ⟨fun _ => ⟨rfl, nofun⟩, fun _ => rfl⟩

/-- The last argument is no string: it is taken out, found wanting and put back. -/
theorem popString_puts_back :
    let payload : Payload := { args := [[104, 105], [1, 0, 2]] }
    let entries := (∅ : Std.ExtTreeMap Handle Object).insert 1 (.data payload)
    let host : Host := { registry := { next := 2, entries }, clearsOnSuccess := true }
    let call : Call := .request (.popString 1)
    host.registry.Fits ∧ (host.call 0 call).1 = .string none ∧
      (host.call 0 call).2.registry = host.registry := by
  intro payload entries host call
  have fits : host.registry.Fits := Registry.fits_of_single rfl ⟨by decide, by decide⟩
  have refused : (host.call 0 call).1 = .string none := by
    decide +kernel
  exact ⟨fits, refused, ((call_failure_unchanged fits 0 call).1 (by rw [refused]; rfl)).1⟩

end PayloadExchange.Boundary
