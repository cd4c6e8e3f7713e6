import PayloadExchange.Proofs.Payload.Halves
import PayloadExchange.Proofs.Registry.Carriers
import PayloadExchange.Proofs.Registry.DeadHandles

/-! # Document and arguments are independent

A run of steps is two runs side by side, one on the document and one on the arguments: what comes
of either half, and what its steps answer, is told by its own steps.
-/

namespace PayloadExchange

namespace Payload

section

variable {α β σ : Type}

def Half.own (half : Half) (half? : α → Option Half) (steps : List α) : List α :=
  steps.filter (half? · = some half)

/-- Of the answers to some steps, those to the steps about one half. -/
def Half.answers (half : Half) (half? : α → Option Half) (steps : List α) (answers : List β) :
    List β :=
  ((steps.zip answers).filter (half? ·.1 = some half)).map Prod.snd

/-- Two lists are made of the same steps about the document and the same steps about the
    arguments, each in the same order. -/
structure Interleaved (half? : α → Option Half) (steps others : List α) : Prop where
  about : ∀ step ∈ steps ++ others, (half? step).isSome
  same : ∀ half : Half, half.own half? steps = half.own half? others

/-- Two lists of steps lead to the same state, and their steps about either half have the same
    answers. -/
structure SameOutcome (take : σ → α → β × σ) (half? : α → Option Half) (start : σ)
    (steps others : List α) : Prop where
  final : (takeAll take start steps).2 = (takeAll take start others).2
  answers : ∀ half : Half, half.answers half? steps (takeAll take start steps).1
    = half.answers half? others (takeAll take start others).1

theorem own_cons {half : Half} {half? : α → Option Half} {step : α}
    (about : half? step = some half) (steps : List α) :
    half.own half? (step :: steps) = step :: half.own half? steps := by
  simp [Half.own, about]

theorem own_cons_other {half : Half} {half? : α → Option Half} {step : α}
    (about : half? step ≠ some half) (steps : List α) :
    half.own half? (step :: steps) = half.own half? steps := by
  simp [Half.own, about]

theorem answers_cons {half : Half} {half? : α → Option Half} {step : α}
    (about : half? step = some half) (steps : List α) (answer : β) (answers : List β) :
    half.answers half? (step :: steps) (answer :: answers)
      = answer :: half.answers half? steps answers := by
  simp [Half.answers, about]

theorem answers_cons_other {half : Half} {half? : α → Option Half} {step : α}
    (about : half? step ≠ some half) (steps : List α) (answer : β) (answers : List β) :
    half.answers half? (step :: steps) (answer :: answers) = half.answers half? steps answers := by
  simp [Half.answers, about]

theorem answers_map (half : Half) (half? : α → Option Half) (steps : List α) (answer : α → β) :
    half.answers half? steps (steps.map answer) = (half.own half? steps).map answer := by
  induction steps with
  | nil => rfl
  | cons step steps ih =>
      by_cases about : half? step = some half
      · rw [List.map_cons, answers_cons about, own_cons about, List.map_cons, ih]
      · rw [List.map_cons, answers_cons_other about, own_cons_other about, ih]

variable {take : Payload → α → β × Payload} {half? : α → Option Half}

/-- What a run makes of one half, and what its steps about it answer, is told by these steps. -/
theorem Halved.takeAll_own (halved : Halved take half?) (half : Half) {steps : List α}
    (about : ∀ step ∈ steps, (half? step).isSome) (own rest : Payload) :
    let all := takeAll take (half.join own rest) steps
    let mine := takeAll take own (half.own half? steps)
    half.answers half? steps all.1 = mine.1 ∧ ∃ final, all.2 = half.join mine.2 final := by
  induction steps generalizing own rest with
  | nil => exact ⟨rfl, rest, rfl⟩
  | cons step steps ih =>
      have further := ih fun later member => about later (List.mem_cons_of_mem step member)
      obtain ⟨which, found⟩ := Option.isSome_iff_exists.1 (about step List.mem_cons_self)
      rcases half.eq_or_other which with rfl | rfl
      · obtain ⟨answers, final⟩ := further (take own step).2 rest
        simp only [takeAll, halved _ step found own rest, answers_cons found, own_cons found]
        exact ⟨congrArg _ answers, final⟩
      · have apart : half? step ≠ some half := by
          rw [found]
          exact fun same => half.other_ne (Option.some.inj same)
        -- The step works on what is the rest here, and this half stays.
        have skipped := halved _ step found rest own
        rw [Half.join_other, Half.join_other] at skipped
        simp only [takeAll, skipped, answers_cons_other apart, own_cons_other apart]
        exact further own (take rest step).2

theorem Halved.takeAll_eq (halved : Halved take half?) {steps : List α}
    (about : ∀ step ∈ steps, (half? step).isSome) (payload : Payload) :
    let all := takeAll take payload steps
    let own (half : Half) := takeAll take payload (half.own half? steps)
    (∀ half : Half, half.answers half? steps all.1 = (own half).1) ∧
      all.2.json = (own .document).2.json ∧ all.2.args = (own .arguments).2.args := by
  intro all own
  have told (half : Half) := halved.takeAll_own half about payload payload
  simp only [Half.join_self] at told
  obtain ⟨-, rest, document⟩ := told .document
  obtain ⟨-, other, arguments⟩ := told .arguments
  exact ⟨fun half => (told half).1, (congrArg Payload.json document).trans rfl,
    (congrArg Payload.args arguments).trans rfl⟩

theorem Halved.sameOutcome (halved : Halved take half?) {steps others : List α}
    (interleaved : Interleaved half? steps others) (payload : Payload) :
    SameOutcome take half? payload steps others := by
  have first := halved.takeAll_eq (fun step member =>
    interleaved.about step (List.mem_append_left others member)) payload
  have second := halved.takeAll_eq (fun step member =>
    interleaved.about step (List.mem_append_right steps member)) payload
  simp only [← interleaved.same] at second
  refine ⟨eq_of_halves ?_ ?_, fun half => (first.1 half).trans (second.1 half).symm⟩
  · exact first.2.1.trans second.2.1.symm
  · exact first.2.2.trans second.2.2.symm

theorem Halved.sameOutcome_carried (halved : Halved take half?) {takeIn : σ → α → β × σ}
    {carrier : Payload → σ} {steps others : List α} (interleaved : Interleaved half? steps others)
    (each : ∀ step ∈ steps ++ others, ∀ payload, takeIn (carrier payload) step
      = ((take payload step).1, carrier (take payload step).2)) (payload : Payload) :
    SameOutcome takeIn half? (carrier payload) steps others := by
  have first := takeAll_carried take takeIn carrier id steps
    (fun step member => each step (List.mem_append_left others member)) payload
  have second := takeAll_carried take takeIn carrier id others
    (fun step member => each step (List.mem_append_right steps member)) payload
  have outcome := halved.sameOutcome interleaved payload
  rw [List.map_id] at first second
  refine ⟨?_, fun half => ?_⟩
  · rw [first, second, outcome.final]
  · rw [first, second, outcome.answers half]

theorem Interleaved.sameOutcome_of_still {take : σ → α → β × σ} {state : σ} {answer : α → β}
    {steps others : List α} (interleaved : Interleaved half? steps others)
    (still : ∀ step ∈ steps ++ others, take state step = (answer step, state)) :
    SameOutcome take half? state steps others := by
  have all (steps : List α) (still : ∀ step ∈ steps, take state step = (answer step, state)) :
      takeAll take state steps = (steps.map answer, state) := by
    induction steps with
    | nil => rfl
    | cons step steps ih =>
        have rest := ih fun later member => still later (List.mem_cons_of_mem step member)
        simp only [takeAll, still step List.mem_cons_self, rest, List.map_cons]
  have first := all steps fun step member => still step (List.mem_append_left others member)
  have second := all others fun step member => still step (List.mem_append_right steps member)
  refine ⟨by rw [first, second], fun half => ?_⟩
  rw [first, second, answers_map, answers_map, interleaved.same]

end

end Payload

namespace Registry

open Payload (Half Interleaved SameOutcome)

variable {registry : Registry} {handle : Handle}

/-- Takes a step by a way to the payload of an object; a way for commands only leads to no bare
    payload. -/
def Way.perform (kind : Kind) (payload : Payload) (step : Way × Payload.Step) :
    Except Fault Payload.Answer × Payload :=
  if step.1.needsCommand = true ∧ kind ≠ .command then (.error .notCommand, payload)
  else payload.perform step.2

theorem Way.halved_perform (kind : Kind) :
    Payload.Halved (perform kind) (Payload.Step.half? ∘ Prod.snd) := by
  intro half step about own rest
  unfold perform
  split
  · rfl
  · exact Payload.halved_perform half step.2 about own rest

theorem stepBy_of_live {object : Object} (live : registry.entries[handle]? = some object)
    {step : Way × Payload.Step} (reads : step.1.looks = true → step.2.reads = true) :
    registry.stepBy handle step = ((Way.perform object.kind object.payload step).1,
      registry.withPayload handle (Way.perform object.kind object.payload step).2) := by
  unfold Way.perform
  split
  · next closed =>
      cases object with
      | command command => exact absurd rfl closed.2
      | data payload =>
          rw [stepBy_of_bare live closed.1 step.2]
          exact Prod.ext rfl (withPayload_self live).symm
  · next opened =>
      exact stepBy_of_open live
        ⟨reads, fun needs => Decidable.byContradiction fun other => opened ⟨needs, other⟩⟩

theorem stepBy_of_dead (dead : handle ∉ registry.liveHandles) (step : Way × Payload.Step) :
    registry.stepBy handle step = (.error (.deadHandle handle), registry) := by
  obtain ⟨way, step⟩ := step
  cases way with
  | look | lookCommand =>
      simp only [stepBy, lookupCommand, lookup_of_dead dead]
      rfl
  | edit => exact editPayload_of_dead dead _
  | editCommand => exact edit_of_dead dead _

theorem sameOutcome_stepBy {steps others : List (Way × Payload.Step)}
    (reads : ∀ step ∈ steps ++ others, step.1.looks = true → step.2.reads = true)
    (interleaved : Interleaved (Payload.Step.half? ∘ Prod.snd) steps others) :
    SameOutcome (stepBy handle) (Payload.Step.half? ∘ Prod.snd) registry steps others := by
  by_cases known : handle ∈ registry.liveHandles
  · obtain ⟨object, found⟩ := mem_liveHandles.1 known
    have live := lookup_eq_ok_iff.1 found
    have each : ∀ step ∈ steps ++ others, ∀ payload,
        stepBy handle (registry.withPayload handle payload) step
          = ((Way.perform object.kind payload step).1,
            registry.withPayload handle (Way.perform object.kind payload step).2) := by
      intro step member payload
      have taken := stepBy_of_live (entries_withPayload live payload) (reads step member)
      rwa [Object.kind_withPayload, Object.payload_withPayload, withPayload_withPayload] at taken
    have outcome :=
      (Way.halved_perform object.kind).sameOutcome_carried interleaved each object.payload
    rwa [withPayload_self live] at outcome
  · exact interleaved.sameOutcome_of_still fun step _ => stepBy_of_dead known step

end Registry

end PayloadExchange
