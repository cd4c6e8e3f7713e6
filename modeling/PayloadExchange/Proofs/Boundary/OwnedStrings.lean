import PayloadExchange.Proofs.Boundary.Failing
import PayloadExchange.Proofs.Boundary.Rendering
import PayloadExchange.Proofs.Boundary.StoredObjects

/-! # Strings are handed over whole

The text of a document and the rendering of an object can be returned as strings whatever is
stored, and so can the names of a command, which are identifiers. That a text to be returned holds
a zero is the only internal failure that a request could meet, so no request on a host that threads
have brought about fails internally.
-/

namespace PayloadExchange

namespace Boundary

theorem returnText_eq_ok {text : String} (whole : Text.Whole text) :
    returnText text = .ok (Text.utf8 text) := by
  rw [returnText, returnBytes, if_neg whole]

section

variable {host : Host} {handle : Handle} {request : Request}

theorem call_reading {object : Object} (live : host.registry.lookup handle = .ok object)
    {look : Object → Except Fault Success}
    (runs : request.run host.registry = Request.reading host.registry handle look)
    {success : Success} (found : look object = .ok success) (thread : Thread) :
    (host.call thread (.request request)).1 = success.reply := by
  have done : (request.run host.registry).1 = .ok success := by
    rw [runs, Request.reading, live]
    exact found
  exact Host.request_ok done

theorem call_rendering (rendering : Object → String) {object : Object}
    (live : host.registry.lookup handle = .ok object) (whole : Text.Whole (rendering object))
    (runs : request.run host.registry
      = Request.reading host.registry handle fun object =>
        .string <$> returnText (rendering object)) (thread : Thread) :
    (host.call thread (.request request)).1 = .string (some (Text.utf8 (rendering object))) := by
  have returned : Success.string <$> returnText (rendering object)
      = .ok (.string (Text.utf8 (rendering object))) := by
    rw [returnText_eq_ok whole]
    rfl
  exact call_reading live runs returned thread

theorem call_name (name : Command → String) {named : Command}
    (live : host.registry.lookup handle = .ok (.command named)) (whole : Text.Whole (name named))
    (runs : request.run host.registry
      = Request.reading host.registry handle fun object => do
        return .string (← returnText (name (← object.asCommand)))) (thread : Thread) :
    (host.call thread (.request request)).1 = .string (some (Text.utf8 (name named))) := by
  have returned : (do return Success.string (← returnText (name named)))
      = Except.ok (.string (Text.utf8 (name named))) := by
    rw [returnText_eq_ok whole]
    rfl
  exact call_reading live runs returned thread

end

/-- Nothing that is stored keeps a text from being returned. The text of a document and the
    renderings have no zero byte, whatever they show; so on any host that threads have brought
    about, each live object is returned as its whole text and rendering, a command with its names
    as well, and no request fails for an internal reason. -/
theorem owned_strings_complete :
    (∀ payload : Payload, Text.Whole payload.jsonText ∧ Text.Whole payload.dump) ∧
    (∀ object : Object, Text.Whole object.dump) ∧
    ∀ (environment : Environment) (host : Host), Reachable environment host →
      (∀ (thread : Thread) (handle : Handle) (object : Object),
        host.registry.lookup handle = .ok object →
        (host.call thread (.request (.getJson handle))).1
          = .string (some (Text.utf8 object.payload.jsonText)) ∧
        (host.call thread (.request (.dump handle))).1
          = .string (some (Text.utf8 object.dump)) ∧
        ∀ named, object = .command named →
          Text.Whole named.interface ∧ Text.Whole named.operation ∧
          (host.call thread (.request (.interfaceOf handle))).1
            = .string (some (Text.utf8 named.interface)) ∧
          (host.call thread (.request (.operationOf handle))).1
            = .string (some (Text.utf8 named.operation))) ∧
      ∀ (request : Request) (fault : Fault),
        (request.run host.registry).1 = .error fault → fault.report.kind ≠ .internal := by
  refine ⟨fun payload => ⟨payload.whole_jsonText, payload.whole_dump⟩, Object.whole_dump, ?_⟩
  intro environment host reachable
  have formed := reachable.wellFormed
  refine ⟨?_, fun request fault failed => (Request.run_error failed).1.2 formed⟩
  intro thread handle object live
  refine ⟨call_rendering (·.payload.jsonText) live object.payload.whole_jsonText rfl thread,
    call_rendering Object.dump live object.whole_dump rfl thread, ?_⟩
  rintro named rfl
  have stored := formed handle _ (Registry.lookup_eq_ok_iff.1 live)
  obtain ⟨interface, operation⟩ := stored.whole_names
  exact ⟨interface, operation, call_name Command.interface live interface rfl thread,
    call_name Command.operation live operation rfl thread⟩

/-- A document with zeros in a key and in a value, and a zero among the arguments. -/
theorem zeros_returned_escaped :
    let environment : Environment := fun _ => none
    let text := "\x7b\"\\u0000\":\"\\u0000\"\x7d"
    let first := ((Host.start environment).call 0 (.request .newPayload)).2
    let second := (first.call 0 (.request (.setJson 1 (some (Text.utf8 text))))).2
    let host := (second.call 0 (.request (.pushBlock 1 (.bytes [0, 255])))).2
    Reachable environment host ∧
    (∃ object, host.registry.lookup 1 = .ok object ∧ object.payload.jsonText = text ∧
      (host.call 0 (.request (.getJson 1))).1 = .string (some (Text.utf8 text)) ∧
      (host.call 0 (.request (.dump 1))).1 = .string (some (Text.utf8 object.dump)) ∧
      Text.Whole object.dump) ∧
    ∃ fault, ((Request.popString 1).run host.registry).1 = .error fault ∧
      fault.report.kind ≠ .internal := by
  intro environment text first second host
  have toFirst : Reachable environment first := .call (.request .newPayload) .start (by decide)
  have toSecond : Reachable environment second := .call _ toFirst (by decide +kernel)
  have reachable : Reachable environment host := .call _ toSecond (by decide +kernel)
  obtain ⟨-, renders, complete⟩ := owned_strings_complete
  obtain ⟨returned, external⟩ := complete environment host reachable
  have live : (1 : Handle) ∈ host.registry.liveHandles := by decide +kernel
  obtain ⟨object, stored⟩ := Registry.mem_liveHandles.1 live
  obtain ⟨json, dumped, -⟩ := returned 0 1 object stored
  have written : (host.call 0 (.request (.getJson 1))).1 = .string (some (Text.utf8 text)) := by
    decide +kernel
  have same : object.payload.jsonText = text :=
    Text.utf8_inj (Option.some.inj (Reply.string.inj (json.symm.trans written)))
  refine ⟨reachable, ⟨object, stored, same, written, dumped, renders object⟩, ?_⟩
  have refused : (((Request.popString 1).run host.registry).1).toOption.isNone = true := by
    decide +kernel
  cases popped : ((Request.popString 1).run host.registry).1 with
  | ok success =>
      rw [popped] at refused
      cases refused
  | error fault => exact ⟨fault, rfl, external _ fault popped⟩

end Boundary

end PayloadExchange
