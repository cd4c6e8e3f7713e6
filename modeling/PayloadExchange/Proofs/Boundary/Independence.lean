import PayloadExchange.Proofs.Boundary.Indifference
import PayloadExchange.Proofs.Boundary.PayloadRequests

/-! # Documents and arguments do not meet

Steps and requests about the document of a payload and those about its arguments have no effect on
one another, on a payload by itself and behind a handle. In what order the ones come among the
others makes no difference.
-/

namespace PayloadExchange.Boundary

open Payload (Half Halved Interleaved SameOutcome)
open Registry (Way stepBy)

namespace Request

def reply (request : Request) : Except Fault Success → Reply
  | .ok success => success.reply
  | .error _ => request.failure

def answer (payload : Payload) (request : Request) : Reply × Payload :=
  (request.reply (request.act payload).1, (request.act payload).2)

theorem halved_answer : Halved answer half? := by
  intro half request about own rest
  rw [answer, answer, halved_act half request about own rest]

theorem serve_eq (request : Request) (registry : Registry) :
    (Call.request request).serve registry
      = (request.reply (request.run registry).1, (request.run registry).2) := by
  rw [Call.serve]
  rcases request.run registry with ⟨outcome, after⟩
  cases outcome <;> rfl

/-- Carries out a request given the registry alone. -/
def serve (registry : Registry) (request : Request) : Reply × Registry :=
  (Call.request request).serve registry

section

variable {registry : Registry} {handle : Handle} {requests others : List Request}

theorem sameOutcome_of_live {object : Object} (live : registry.entries[handle]? = some object)
    (named : ∀ request ∈ requests ++ others, request.names = [handle])
    (interleaved : Interleaved half? requests others) :
    SameOutcome serve half? registry requests others := by
  have each : ∀ request ∈ requests ++ others, ∀ payload,
      serve (registry.withPayload handle payload) request
        = ((answer payload request).1, registry.withPayload handle (answer payload request).2) := by
    intro request member payload
    have ran := run_of_live (Registry.entries_withPayload live payload)
      (interleaved.about request member) (named request member)
    rw [Object.payload_withPayload, Registry.withPayload_withPayload] at ran
    rw [serve, serve_eq, ran]
    rfl
  have outcome := halved_answer.sameOutcome_carried interleaved each object.payload
  rwa [Registry.withPayload_self live] at outcome

theorem sameOutcome_of_dead (dead : handle ∉ registry.liveHandles)
    (named : ∀ request ∈ requests ++ others, request.names = [handle])
    (interleaved : Interleaved half? requests others) :
    SameOutcome serve half? registry requests others := by
  have still : ∀ request ∈ requests ++ others,
      serve registry request = (request.failure, registry) := by
    intro request member
    obtain ⟨fault, ran⟩ := run_of_single_dead dead (named request member)
    rw [serve, serve_eq, ran]
    rfl
  exact interleaved.sameOutcome_of_still still

theorem sameOutcome (named : ∀ request ∈ requests ++ others, request.names = [handle])
    (interleaved : Interleaved half? requests others) :
    SameOutcome serve half? registry requests others := by
  by_cases known : handle ∈ registry.liveHandles
  · obtain ⟨object, live⟩ := Registry.mem_liveHandles.1 known
    exact sameOutcome_of_live (Registry.lookup_eq_ok_iff.1 live) named interleaved
  · exact sameOutcome_of_dead known named interleaved

end

end Request

/-- Requests in turn, as calls of a thread, come to what they come to given the registry alone. -/
theorem Host.takeAll_request (host : Host) (thread : Thread) (requests : List Request) :
    let called := takeAll (fun host asked => Host.call host thread (.request asked)) host requests
    let served := takeAll Request.serve host.registry requests
    called.1 = served.1 ∧ called.2.registry = served.2 := by
  induction requests generalizing host with
  | nil => exact ⟨rfl, rfl⟩
  | cons request requests ih =>
      obtain ⟨replies, final⟩ := ih (host.call thread (.request request)).2
      rw [Host.registry_call] at replies final
      refine ⟨?_, final⟩
      have first : (Host.call host thread (.request request)).1
          = (Request.serve host.registry request).1 := host.call_serve thread rfl
      simp only [takeAll, first, replies]
      rfl

/-- The document of a payload and its arguments do not meet. What becomes of either, and what the
    steps about it answer, is what it would be without the steps about the other, failures
    included. So steps about the one and steps about the other may be interleaved in any way, to
    the same effect and with the same answers: on a payload by itself, behind a handle by any ways,
    though none is changed by a look, and in the requests of a caller on a handle. -/
theorem document_and_arguments_apart :
    (∀ (payload : Payload) (steps : List Payload.Step), (∀ step ∈ steps, step.half?.isSome) →
      let all := takeAll Payload.perform payload steps
      let own (half : Half) := takeAll Payload.perform payload (half.own Payload.Step.half? steps)
      (∀ half : Half, half.answers Payload.Step.half? steps all.1 = (own half).1) ∧
        all.2.json = (own .document).2.json ∧ all.2.args = (own .arguments).2.args) ∧
    (∀ (payload : Payload) (steps others : List Payload.Step),
      Interleaved Payload.Step.half? steps others →
      SameOutcome Payload.perform Payload.Step.half? payload steps others) ∧
    (∀ (registry : Registry) (handle : Handle) (steps others : List (Way × Payload.Step)),
      (∀ step ∈ steps ++ others, step.1.looks = true → step.2.reads = true) →
      Interleaved (Payload.Step.half? ∘ Prod.snd) steps others →
      SameOutcome (stepBy handle) (Payload.Step.half? ∘ Prod.snd) registry steps others) ∧
    ∀ (host : Host) (thread : Thread) (handle : Handle) (requests others : List Request),
      (∀ request ∈ requests ++ others, request.names = [handle]) →
      Interleaved Request.half? requests others →
      let calls := takeAll (fun host asked => Host.call host thread (.request asked)) host
      (calls requests).2.registry = (calls others).2.registry ∧
        ∀ half : Half, half.answers Request.half? requests (calls requests).1
          = half.answers Request.half? others (calls others).1 := by
  refine ⟨?_, fun payload _ _ interleaved => ?_, fun _ _ _ _ => Registry.sameOutcome_stepBy, ?_⟩
  · exact fun payload steps about => Payload.halved_perform.takeAll_eq about payload
  · exact Payload.halved_perform.sameOutcome interleaved payload
  · intro host thread handle requests others named interleaved calls
    obtain ⟨replies, registry⟩ := host.takeAll_request thread requests
    obtain ⟨later, final⟩ := host.takeAll_request thread others
    have outcome : SameOutcome Request.serve Request.half? host.registry requests others :=
      Request.sameOutcome named interleaved
    refine ⟨?_, fun half => ?_⟩
    · rw [registry, final, outcome.final]
    · rw [replies, later, outcome.answers half]

/-- Steps on an empty payload, as edits through the handle of a command, and as requests. In
    either order, a document that is no object is refused, and so are a pop of nothing, an index out
    of range, a null pointer, and an argument with a zero byte as a string. -/
theorem interleaved_steps_on_command :
    let documents : List Payload.Step := [.setJson .null, .setJson (.object []), .jsonText]
    let arguments : List Payload.Step := [.pop, .push [0], .get 5, .insert (-2) []]
    let mixed : List Payload.Step :=
      [.setJson .null, .pop, .push [0], .setJson (.object []), .get 5, .insert (-2) [], .jsonText]
    let edits (steps : List Payload.Step) : List (Way × Payload.Step) := steps.map (.edit, ·)
    let requests : List Request :=
      [.popString 1, .setJson 1 none, .pushBlock 1 (.bytes [0]), .getJson 1, .popString 1]
    let others : List Request :=
      [.setJson 1 none, .getJson 1, .popString 1, .pushBlock 1 (.bytes [0]), .popString 1]
    let registry := ((Registry.empty {}).perform (.insert { names := some ("a", "b") })).2
    let host : Host := { registry, clearsOnSuccess := true }
    let calls := takeAll (fun host asked => Host.call host 0 (.request asked)) host
    (takeAll Payload.perform .empty mixed).2.args = [[], [0]] ∧
      Half.arguments.answers Payload.Step.half? mixed (takeAll Payload.perform .empty mixed).1
        = [.error .nothingToPop, .ok .done, .error (.indexOutOfRange 5 1), .ok .done] ∧
      SameOutcome Payload.perform Payload.Step.half? .empty mixed (arguments ++ documents) ∧
      SameOutcome (stepBy 1) (Payload.Step.half? ∘ Prod.snd) registry (edits mixed)
        (edits (arguments ++ documents)) ∧
      (calls requests).2.registry = (calls others).2.registry ∧
      Half.arguments.answers Request.half? requests (calls requests).1
        = [.string none, .code 0, .string none] := by
  intro documents arguments mixed edits requests others registry host calls
  obtain ⟨bare, reordered, behind, called⟩ := document_and_arguments_apart
  obtain ⟨answers, -, args⟩ := bare .empty mixed (by decide)
  have interleaved : Interleaved Payload.Step.half? mixed (arguments ++ documents) :=
    ⟨by decide, fun half => by cases half <;> rfl⟩
  have edited := behind registry 1 (edits mixed) (edits (arguments ++ documents)) (by decide)
    ⟨by decide, fun half => by cases half <;> rfl⟩
  obtain ⟨final, replies⟩ := called host 0 1 requests others (by decide)
    ⟨by decide, fun half => by cases half <;> rfl⟩
  exact ⟨args.trans rfl, (answers .arguments).trans rfl, reordered _ _ _ interleaved, edited, final,
    (replies .arguments).trans rfl⟩

end PayloadExchange.Boundary
