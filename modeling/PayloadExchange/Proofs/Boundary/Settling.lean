import PayloadExchange.Boundary.Request
import PayloadExchange.Proofs.Boundary.Outcomes
import PayloadExchange.Proofs.Boundary.Rendering
import PayloadExchange.Proofs.Registry.WellFormed

/-! # How requests end

A request ends in one of two ways. Either it fails, the registry is what it was and the fault
can be put in words; or it succeeds, and what it has to say is no sign of failure. Where objects
are well formed no fault is an internal one: the only one that a request could meet is a zero in a
text to be returned. The ways to work on a registry are looked at first, and each request is put
together from them.
-/

namespace PayloadExchange

/-- The payload can be counted in signed words: the arguments, and the bytes of each. -/
structure Payload.Fits (payload : Payload) : Prop where
  count : payload.args.length < 9223372036854775808
  sizes : ∀ arg ∈ payload.args, arg.length < 9223372036854775808

def Registry.Fits (registry : Registry) : Prop :=
  ∀ (handle : Handle) (object : Object),
    registry.entries[handle]? = some object → object.payload.Fits

theorem Registry.fits_of_single {registry : Registry} {handle : Handle} {object : Object}
    (single : registry.entries = (∅ : Std.ExtTreeMap Handle Object).insert handle object)
    (fits : object.payload.Fits) : registry.Fits := by
  intro other found live
  rw [single, Std.ExtTreeMap.getElem?_insert] at live
  split at live
  · obtain rfl := Option.some.inj live
    exact fits
  · simp at live

theorem Identifier.whole_of_valid {text : String} (valid : Identifier.Valid (Text.utf8 text)) :
    Text.Whole text :=
  fun zero => absurd (valid.2 0 zero) (by decide)

theorem Object.WellFormed.whole_names {named : Command}
    (formed : (Object.command named).WellFormed) :
    Text.Whole named.interface ∧ Text.Whole named.operation := by
  obtain ⟨interface, operation⟩ := formed.names named.interface named.operation rfl
  exact ⟨Identifier.whole_of_valid interface, Identifier.whole_of_valid operation⟩

namespace Boundary

/-- What is to be said is no sign of failure. -/
def Success.Sound : Success → Prop
  | handle issued => issued ≠ 0
  | size n | copied n _ => n < 9223372036854775808
  | _ => True

namespace Request

section

variable {order : Prop} {good : Success → Prop} {registry : Registry} {handle : Handle}

theorem reading_settles {look : Object → Except Fault Success}
    (each : ∀ object, registry.entries[handle]? = some object →
      Gives (Fault.Told order) good (look object)) :
    Settles (Fault.Told order) good registry (reading registry handle look) :=
  ((registry.lookup_gives handle).bind each).settles

theorem naming_settles (name : Command → String)
    (whole : ∀ named, registry.entries[handle]? = some (.command named) → order →
      Text.Whole (name named)) (said : ∀ bytes, good (.string bytes)) :
    Settles (Fault.Told order) good registry (reading registry handle fun object => do
      return .string (← returnText (name (← object.asCommand)))) := by
  apply reading_settles
  intro object live
  cases object with
  | data payload => exact Fault.told_of_none rfl nofun
  | command named => exact (returnBytes_gives (whole named live)).bind fun _ _ => said _

theorem changing_settles {change : Payload → Except Fault (Success × Payload)}
    (each : ∀ object, registry.entries[handle]? = some object →
      Gives (Fault.Told order) (fun changed => good changed.1) (change object.payload)) :
    Settles (Fault.Told order) good registry (changing registry handle change) := by
  apply Registry.editPayload_settles
  intro object live
  have given := each object live
  generalize change object.payload = result at given
  cases result with
  | ok changed => exact given
  | error fault => exact ⟨given, rfl⟩

theorem receiving_settles {α : Type} {fit : α → Prop} {received : Except Fault α}
    {proceed : α → Except Fault Success × Registry} (given : Gives (Fault.Told order) fit received)
    (each : ∀ value, fit value → Settles (Fault.Told order) good registry (proceed value)) :
    Settles (Fault.Told order) good registry (receiving registry received proceed) := by
  cases received with
  | ok value => exact each value given
  | error fault => exact ⟨given, rfl⟩

theorem storing_settles {object : Except Fault Object}
    (given : Gives (Fault.Told order) (fun _ => True) object)
    (issued : ∀ fresh : Handle, fresh ≠ 0 → good (.handle fresh)) :
    Settles (Fault.Told order) good registry (storing registry object) := by
  have inserted := given.bind fun object _ => registry.insert_gives object
  unfold storing
  generalize object >>= registry.insert = result at inserted
  cases result with
  | ok grown => exact issued grown.1 inserted
  | error fault => exact ⟨inserted, rfl⟩

theorem popStringFrom_settles (returned : ∀ bytes, good (.string bytes)) (payload : Payload) :
    Settles (Fault.Told order) good payload (popStringFrom payload) := by
  have popped : Gives (Fault.Told order) _ payload.pop := payload.pop_gives
  unfold popStringFrom
  split
  · next fault empty =>
      rw [empty] at popped
      exact ⟨popped, rfl⟩
  · next arg rest last =>
      rw [last] at popped
      have given : Gives (Fault.Told order) _ (returnArgument arg) := returnArgument_gives arg
      split
      · exact returned _
      · next fault refused =>
          rw [refused] at given
          exact ⟨given, popped.symm⟩

end

variable {registry : Registry}

/-- No request fails halfway, none succeeds with a sign of failure as long as payloads can be
    counted, and none fails internally where objects are well formed. -/
theorem run_settles (registry : Registry) (request : Request) :
    Settles (Fault.Told registry.WellFormed) (fun success => registry.Fits → success.Sound)
      registry (request.run registry) := by
  have done (fits : registry.Fits) : Success.Sound .done := trivial
  cases request with
  | dump handle =>
      apply reading_settles
      intro object _
      exact (returnBytes_gives fun _ => object.whole_dump).map fun _ _ _ => trivial
  | getJson handle =>
      apply reading_settles
      intro object _
      exact (returnBytes_gives fun _ => object.payload.whole_jsonText).map fun _ _ _ => trivial
  | interfaceOf handle =>
      refine naming_settles Command.interface ?_ fun _ _ => trivial
      exact fun named live formed => (formed handle _ live).whole_names.1
  | operationOf handle =>
      refine naming_settles Command.operation ?_ fun _ _ => trivial
      exact fun named live formed => (formed handle _ live).whole_names.2
  | delete handle =>
      have given : Gives (Fault.Told registry.WellFormed) _ (registry.delete handle) :=
        registry.delete_gives handle
      rw [run]
      split
      · exact done
      · next fault dead =>
          rw [dead] at given
          exact ⟨given, rfl⟩
  | deleteAll => exact done
  | leakCheck => exact (registry.leakCheck_gives.map fun _ _ => done).settles
  | newPayload => exact storing_settles trivial fun _ issued _ => issued
  | newCommand interface operation =>
      refine storing_settles ?_ fun _ issued _ => issued
      apply (receiveText_gives interface).bind
      intro interface first
      apply (receiveText_gives operation).bind
      intro operation second
      exact (Command.make_gives first second).bind fun _ _ => trivial
  | interfaceIs handle text | operationIs handle text =>
      apply receiving_settles (receiveBytes_gives text)
      intro bytes _
      exact reading_settles fun object _ => object.asCommand_gives.bind fun _ _ _ => trivial
  | setJson handle text =>
      apply receiving_settles (receiveText_gives text)
      intro text _
      exact changing_settles fun _ _ => (Payload.setJsonText_gives text).bind fun _ _ => done
  | pushString handle text =>
      apply receiving_settles (receiveBytes_gives text)
      intro bytes _
      exact changing_settles fun _ _ => done
  | pushBlock handle block =>
      apply receiving_settles (receiveBlock_gives block)
      intro bytes _
      exact changing_settles fun _ _ => done
  | popString handle =>
      apply Registry.editPayload_settles
      exact fun object _ => popStringFrom_settles (fun _ _ => trivial) object.payload
  | popBlock handle block =>
      apply receiving_settles (receiveBlock_gives block)
      intro contents _
      apply changing_settles
      intro object live
      apply object.payload.pop_gives.bind
      rintro ⟨arg, rest⟩ whole fits
      apply (fits handle object live).sizes
      simp [whole, Payload.push]
  | insertString handle index text =>
      apply receiving_settles (receiveBytes_gives text)
      intro bytes _
      exact changing_settles fun _ _ => (Payload.insert_gives index bytes).bind fun _ _ => done
  | insertBlock handle index block =>
      apply receiving_settles (receiveBlock_gives block)
      intro bytes _
      exact changing_settles fun _ _ => (Payload.insert_gives index bytes).bind fun _ _ => done
  | setString handle index text =>
      apply receiving_settles (receiveBytes_gives text)
      intro bytes _
      exact changing_settles fun _ _ => (Payload.set_gives index bytes).bind fun _ _ => done
  | setBlock handle index block =>
      apply receiving_settles (receiveBlock_gives block)
      intro bytes _
      exact changing_settles fun _ _ => (Payload.set_gives index bytes).bind fun _ _ => done
  | getString handle index =>
      apply reading_settles
      intro object _
      apply (Payload.get_gives index).bind
      intro arg _
      exact (returnArgument_gives arg).bind fun _ _ _ => trivial
  | getBlock handle index block =>
      apply receiving_settles (receiveBlock_gives block)
      intro contents _
      apply reading_settles
      intro object live
      exact (Payload.get_gives index).bind fun arg member fits =>
        (fits handle object live).sizes arg member
  | getSize handle index =>
      apply reading_settles
      intro object live
      exact (Payload.get_gives index).bind fun arg member fits =>
        (fits handle object live).sizes arg member
  | remove handle index =>
      exact changing_settles fun _ _ => (Payload.remove_gives index).bind fun _ _ => done
  | count handle =>
      exact reading_settles fun object live fits => (fits handle object live).count
  | clear handle =>
      rw [run]
      exact changing_settles fun _ _ => done
  | assign target source => exact (registry.assign_settles target source).map fun _ _ => done

theorem run_error {request : Request} {fault : Fault}
    (failed : (request.run registry).1 = .error fault) :
    fault.Told registry.WellFormed ∧ (request.run registry).2 = registry := by
  have settled := run_settles registry request
  generalize request.run registry = outcome at settled failed
  obtain ⟨result, after⟩ := outcome
  subst failed
  exact settled

theorem run_ok (fits : registry.Fits) {request : Request} {success : Success}
    (done : (request.run registry).1 = .ok success) : success.Sound := by
  have settled := run_settles registry request
  generalize request.run registry = outcome at settled done
  obtain ⟨result, after⟩ := outcome
  subst done
  exact settled fits

end Request

end Boundary

end PayloadExchange
