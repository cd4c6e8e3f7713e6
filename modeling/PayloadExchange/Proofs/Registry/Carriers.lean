import PayloadExchange.Proofs.Registry.Isolation
import PayloadExchange.Proofs.Registry.WellFormed

/-! # Payloads and their carriers

A payload may stand alone, in an object of either kind, or in such an object behind a handle, and
there are several ways to reach it. Steps on it answer and change the same by every way: the ways
differ in what they refuse, not in what they do. Around the payload nothing changes.
-/

namespace PayloadExchange

/-- Takes steps in turn, whatever comes of each. -/
def takeAll {σ α β : Type} (take : σ → α → β × σ) (state : σ) : List α → List β × σ
  | [] => ([], state)
  | step :: steps =>
      let (answer, changed) := take state step
      let (answers, final) := takeAll take changed steps
      (answer :: answers, final)

/-- If single steps come out the same inside of a carrier, then all of them in turn do. -/
theorem takeAll_carried {σ τ α β γ : Type} (take : σ → α → β × σ) (takeIn : τ → γ → β × τ)
    (carrier : σ → τ) (bare : γ → α) (steps : List γ)
    (each : ∀ step ∈ steps, ∀ state, takeIn (carrier state) step
      = ((take state (bare step)).1, carrier (take state (bare step)).2)) (state : σ) :
    takeAll takeIn (carrier state) steps
      = ((takeAll take state (steps.map bare)).1,
        carrier (takeAll take state (steps.map bare)).2) := by
  induction steps generalizing state with
  | nil => rfl
  | cons step steps ih =>
      have rest := ih fun later member => each later (List.mem_cons_of_mem step member)
      simp only [takeAll, List.map_cons, each step List.mem_cons_self, rest]

/-- The step has no part in changing a payload. -/
def Payload.Step.reads : Step → Bool
  | get _ | count | isEmpty | jsonText | state | dump | abort _ => true
  | setJsonText _ | setJson _ | push _ | pop | set .. | insert .. | remove _ | clear => false

theorem Payload.perform_of_reads {step : Step} (reads : step.reads = true) (payload : Payload) :
    (payload.perform step).2 = payload := by
  cases step with
  | get index =>
      simp only [perform, apply]
      cases payload.get index <;> rfl
  | count | isEmpty | jsonText | state | dump | abort message => rfl
  | setJsonText | setJson | push | pop | set | insert | remove | clear => cases reads

namespace Object

theorem asCommand_eq_ok {object : Object} (named : object.kind = .command) :
    ∃ command, object.asCommand = .ok command ∧ command.payload = object.payload := by
  cases object with
  | data payload => cases named
  | command command => exact ⟨command, rfl, rfl⟩

theorem editCommand_eq {α : Type} {object : Object} (named : object.kind = .command)
    (change : Payload → Except Fault α × Payload) :
    object.editCommand change = object.edit change := by
  cases object with
  | data payload => cases named
  | command command => rfl

theorem edit_withPayload {α : Type} (object : Object) (payload : Payload)
    (change : Payload → α × Payload) : (object.withPayload payload).edit change
      = ((change payload).1, object.withPayload (change payload).2) := by
  simp only [edit, payload_withPayload, withPayload_withPayload]

theorem takeAll_edit (object : Object) (steps : List Payload.Step) :
    let bare := takeAll Payload.perform object.payload steps
    takeAll (fun object step => edit object (·.perform step)) object steps
      = (bare.1, object.withPayload bare.2) := by
  have carried := takeAll_carried Payload.perform
    (fun object step => edit object (·.perform step)) object.withPayload id steps
    (fun step _ payload => object.edit_withPayload payload (·.perform step)) object.payload
  rwa [object.withPayload_payload, List.map_id] at carried

theorem takeAll_editCommand {object : Object} (named : object.kind = .command)
    (steps : List Payload.Step) :
    let bare := takeAll Payload.perform object.payload steps
    takeAll (fun object step => editCommand object (·.perform step)) object steps
      = (bare.1, object.withPayload bare.2) := by
  have carried := takeAll_carried Payload.perform
    (fun object step => editCommand object (·.perform step)) object.withPayload id steps
    (fun step _ payload => ?_) object.payload
  · rwa [object.withPayload_payload, List.map_id] at carried
  · -- The kind is the same after the steps before, so the command can still be edited.
    rw [editCommand_eq ((object.kind_withPayload payload).trans named)]
    exact object.edit_withPayload payload (·.perform step)

end Object

namespace Registry

variable {registry : Registry} {handle : Handle} {object : Object}

/-- The registry with another payload in the object behind a handle, if there is one. -/
def withPayload (registry : Registry) (handle : Handle) (payload : Payload) : Registry :=
  { registry with entries := registry.entries.modify handle (·.withPayload payload) }

theorem getElem?_entries_withPayload (registry : Registry) (handle key : Handle)
    (payload : Payload) : (registry.withPayload handle payload).entries[key]?
      = if handle = key then registry.entries[key]?.map (·.withPayload payload)
        else registry.entries[key]? := by
  rw [withPayload, Std.ExtTreeMap.getElem?_modify]
  by_cases same : handle = key
  · simp [same]
  · simp [same]

theorem withPayload_withPayload (registry : Registry) (handle : Handle) (payload later : Payload) :
    (registry.withPayload handle payload).withPayload handle later
      = registry.withPayload handle later := by
  refine eq_of_entries rfl rfl fun key => ?_
  simp only [getElem?_entries_withPayload]
  split
  · cases registry.entries[key]? with
    | none => rfl
    | some object => simp [object.withPayload_withPayload]
  · rfl

theorem withPayload_self (live : registry.entries[handle]? = some object) :
    registry.withPayload handle object.payload = registry := by
  refine eq_of_entries rfl rfl fun key => ?_
  rw [getElem?_entries_withPayload]
  split
  · next same =>
      rw [← same, live, Option.map_some, object.withPayload_payload]
  · rfl

theorem entries_withPayload (live : registry.entries[handle]? = some object) (payload : Payload) :
    (registry.withPayload handle payload).entries[handle]? = some (object.withPayload payload) := by
  rw [getElem?_entries_withPayload, if_pos rfl, live, Option.map_some]

theorem editPayload_of_live {α : Type} (live : registry.entries[handle]? = some object)
    (change : Payload → Except Fault α × Payload) :
    registry.editPayload handle change
      = ((change object.payload).1, registry.withPayload handle (change object.payload).2) := by
  simp only [editPayload, edit, live, Object.edit]
  refine Prod.ext rfl (eq_of_entries rfl rfl fun key => ?_)
  rw [Std.ExtTreeMap.getElem?_insert, getElem?_entries_withPayload]
  by_cases same : handle = key
  · subst same
    simp [live]
  · simp [same]

theorem assign_of_live {source : Handle} {other : Object}
    (live : registry.entries[handle]? = some object)
    (copied : registry.entries[source]? = some other) :
    registry.assign handle source = (.ok (), registry.withPayload handle other.payload) := by
  rw [assign, lookup_eq_ok_iff.2 copied]
  exact editPayload_of_live live _

theorem editCommand_of_live {α : Type} (live : registry.entries[handle]? = some object)
    (named : object.kind = .command) (change : Payload → Except Fault α × Payload) :
    registry.edit handle (·.editCommand change) = registry.editPayload handle change := by
  simp only [editPayload, edit, live, Object.editCommand_eq named]

/-- The ways to the payload behind a handle: to look at it or to edit it, in an object of any kind
    or in a command only. -/
inductive Way where
  | look
  | edit
  | lookCommand
  | editCommand
  deriving DecidableEq

/-- Nothing can be changed by this way. -/
def Way.looks : Way → Bool
  | look | lookCommand => true
  | edit | editCommand => false

def Way.needsCommand : Way → Bool
  | lookCommand | editCommand => true
  | look | edit => false

/-- Takes a step on the payload behind a handle by one of the ways. -/
def stepBy (handle : Handle) (registry : Registry) :
    Way × Payload.Step → Except Fault Payload.Answer × Registry
  | (.look, step) =>
      (registry.lookup handle >>= fun object => (object.payload.perform step).1, registry)
  | (.edit, step) => registry.editPayload handle (·.perform step)
  | (.lookCommand, step) =>
      (registry.lookupCommand handle >>= fun command => (command.payload.perform step).1, registry)
  | (.editCommand, step) => registry.edit handle (·.editCommand (·.perform step))

/-- The way is open to a step on an object of this kind. -/
structure Way.Open (kind : Kind) (way : Way) (step : Payload.Step) : Prop where
  reads : way.looks = true → step.reads = true
  named : way.needsCommand = true → kind = .command

/-- By every way that is open a step does what it does to the payload. -/
theorem stepBy_of_open (live : registry.entries[handle]? = some object) {way : Way}
    {step : Payload.Step} (admitted : way.Open object.kind step) :
    registry.stepBy handle (way, step)
      = ((object.payload.perform step).1,
        registry.withPayload handle (object.payload.perform step).2) := by
  have looked (looks : way.looks = true) :
      registry.withPayload handle (object.payload.perform step).2 = registry := by
    rw [Payload.perform_of_reads (admitted.reads looks), withPayload_self live]
  have found := lookup_eq_ok_iff.2 live
  cases way with
  | look =>
      rw [stepBy, found, looked rfl]
      rfl
  | edit => exact editPayload_of_live live (·.perform step)
  | lookCommand =>
      obtain ⟨command, same, payload⟩ := Object.asCommand_eq_ok (admitted.named rfl)
      rw [stepBy, lookupCommand, found, looked rfl, ← payload]
      simp only [bind, Except.bind, same]
  | editCommand =>
      rw [stepBy, editCommand_of_live live (admitted.named rfl)]
      exact editPayload_of_live live (·.perform step)

theorem takeAll_stepBy (live : registry.entries[handle]? = some object)
    (steps : List (Way × Payload.Step))
    (admitted : ∀ step ∈ steps, step.1.Open object.kind step.2) :
    let bare := takeAll Payload.perform object.payload (steps.map Prod.snd)
    takeAll (stepBy handle) registry steps = (bare.1, registry.withPayload handle bare.2) := by
  have carried := takeAll_carried Payload.perform (stepBy handle)
    (registry.withPayload handle) Prod.snd steps ?_ object.payload
  · rwa [withPayload_self live] at carried
  · intro step member payload
    have within : step.1.Open (object.withPayload payload).kind step.2 := by
      rw [Object.kind_withPayload]
      exact admitted step member
    have taken := stepBy_of_open (entries_withPayload live payload) within
    rwa [Object.payload_withPayload, withPayload_withPayload] at taken

theorem keys_eq_of_mem_iff {α β γ : Type} {cmp : α → α → Ordering} [Std.TransCmp cmp]
    [Std.LawfulEqCmp cmp] {a : Std.ExtTreeMap α β cmp} {b : Std.ExtTreeMap α γ cmp}
    (same : ∀ key, key ∈ a ↔ key ∈ b) : a.keys = b.keys := by
  have blank : a.map (fun _ _ => ()) = b.map fun _ _ => () := by
    apply Std.ExtTreeMap.ext_getElem?
    intro key
    rw [Std.ExtTreeMap.getElem?_map, Std.ExtTreeMap.getElem?_map]
    by_cases known : key ∈ a
    · simp [known, (same key).1 known]
    · have unknown : key ∉ b := fun member => known ((same key).2 member)
      simp [known, unknown]
  rw [← Std.ExtTreeMap.keys_map (t := a), blank, Std.ExtTreeMap.keys_map]

/-- Behind the handle the object has this payload, and that is all that has changed. -/
structure PayloadReplaced (registry changed : Registry) (handle : Handle) (object : Object)
    (payload : Payload) : Prop where
  stored : ∃ found, changed.lookup handle = .ok found ∧
    found.payload = payload ∧ found.kind = object.kind ∧ found.names = object.names
  kind : changed.kindOf handle = registry.kindOf handle
  others : ∀ other, other ≠ handle → changed.entries[other]? = registry.entries[other]?
  liveHandles : changed.liveHandles = registry.liveHandles
  issue : changed.issue = registry.issue

theorem payloadReplaced (live : registry.entries[handle]? = some object) (payload : Payload) :
    registry.PayloadReplaced (registry.withPayload handle payload) handle object payload where
  stored := ⟨object.withPayload payload, lookup_eq_ok_iff.2 (entries_withPayload live payload),
    object.payload_withPayload payload, object.kind_withPayload payload,
    object.names_withPayload payload⟩
  kind := by
    rw [kindOf, kindOf, entries_withPayload live payload, live]
    exact object.kind_withPayload payload
  others := by
    intro other apart
    rw [getElem?_entries_withPayload, if_neg apart.symm]
  liveHandles := keys_eq_of_mem_iff fun _ => Std.ExtTreeMap.mem_modify
  issue := rfl

theorem lookupCommand_of_bare {payload : Payload}
    (live : registry.entries[handle]? = some (.data payload)) :
    registry.lookupCommand handle = .error .notCommand := by
  rw [lookupCommand, lookup_eq_ok_iff.2 live]
  rfl

theorem editCommand_of_bare {α : Type} {payload : Payload}
    (live : registry.entries[handle]? = some (.data payload))
    (change : Payload → Except Fault α × Payload) :
    registry.edit handle (·.editCommand change) = (.error .notCommand, registry) := by
  have refused : (registry.edit handle (·.editCommand change)).1 = .error .notCommand := by
    rw [edit, live]
    rfl
  refine Prod.ext refused (eq_of_entries ?_ ?_ fun key => ?_)
  · rw [edit, live]
  · rw [edit, live]
  · rw [getElem?_entries_edit]
    split
    · next same =>
        rw [← same, live]
        rfl
    · rfl

theorem stepBy_of_bare {payload : Payload}
    (live : registry.entries[handle]? = some (.data payload)) {way : Way}
    (needs : way.needsCommand = true) (step : Payload.Step) :
    registry.stepBy handle (way, step) = (.error .notCommand, registry) := by
  cases way with
  | look | edit => cases needs
  | lookCommand =>
      rw [stepBy, lookupCommand_of_bare live]
      rfl
  | editCommand => exact editCommand_of_bare live (·.perform step)

theorem takeAll_stepBy_of_bare {payload : Payload}
    (live : registry.entries[handle]? = some (.data payload))
    (steps : List (Way × Payload.Step))
    (needs : ∀ step ∈ steps, step.1.needsCommand = true) :
    takeAll (stepBy handle) registry steps
      = (steps.map fun _ => .error .notCommand, registry) := by
  induction steps with
  | nil => rfl
  | cons step steps ih =>
      have rest := ih fun later member => needs later (List.mem_cons_of_mem step member)
      simp only [takeAll, stepBy_of_bare live (needs step List.mem_cons_self) step.2, rest,
        List.map_cons]

def Operation.needsCommand : Operation → Bool
  | interface _ | operation _ | commandPayload _ | commandStep .. => true
  | create _ | insert _ | kind _ | read _ | dump _ | delete _ | take _ | move _ | clear | count
  | isEmpty | config | leakCheck | assign .. | step .. | batch .. | equal .. => false

theorem perform_of_bare {payload : Payload}
    (live : registry.entries[handle]? = some (.data payload)) {operation : Operation}
    (needs : operation.needsCommand = true) (named : operation.names = [handle]) :
    registry.perform operation = (.error .notCommand, registry) := by
  cases operation with
  | interface own | operation own | commandPayload own =>
      obtain rfl := (List.cons.inj named).1
      rw [perform, reading, lookupCommand_of_bare live]
      rfl
  | commandStep own step =>
      obtain rfl := (List.cons.inj named).1
      rw [perform, editCommand_of_bare live]
      rfl
  | _ => cases needs

/-- Steps in turn on a payload answer the same and leave the same payload wherever it is: by
    itself, in an object, or behind a handle, reached by any ways that are open to them. Nothing
    else changes. The ways to commands are closed to a bare payload, with one fault for every
    step, every other use of them and every operation, and without any change. -/
theorem steps_alike_in_every_carrier (object : Object) :
    (∀ steps : List Payload.Step,
      let bare := takeAll Payload.perform object.payload steps
      takeAll (fun (object : Object) step => object.edit (·.perform step)) object steps
          = (bare.1, object.withPayload bare.2) ∧
        (object.kind = .command →
          takeAll (fun (object : Object) step => object.editCommand (·.perform step)) object steps
            = (bare.1, object.withPayload bare.2))) ∧
    (∀ (registry : Registry) (handle : Handle), registry.entries[handle]? = some object →
      (∀ steps : List (Way × Payload.Step),
        (∀ step ∈ steps, step.1.Open object.kind step.2) →
        let bare := takeAll Payload.perform object.payload (steps.map Prod.snd)
        let carried := takeAll (stepBy handle) registry steps
        carried.1 = bare.1 ∧ registry.PayloadReplaced carried.2 handle object bare.2) ∧
      (object.kind = .payload →
        (∀ steps : List (Way × Payload.Step), (∀ step ∈ steps, step.1.needsCommand = true) →
          takeAll (stepBy handle) registry steps
            = (steps.map fun _ => .error .notCommand, registry)) ∧
        (∀ {α : Type} (look : Command → Except Fault α),
          registry.lookupCommand handle >>= look = .error .notCommand) ∧
        ∀ operation : Operation, operation.needsCommand = true → operation.names = [handle] →
          registry.perform operation = (.error .notCommand, registry))) ∧
    Fault.notCommand.report = ⟨.invalidArgument, "object does not support the cmd interface"⟩ := by
  refine ⟨?_, ?_, rfl⟩
  · intro steps bare
    exact ⟨object.takeAll_edit steps, fun named => Object.takeAll_editCommand named steps⟩
  · intro registry handle live
    refine ⟨?_, ?_⟩
    · intro steps admitted bare carried
      have taken := takeAll_stepBy live steps admitted
      exact ⟨congrArg Prod.fst taken, (congrArg Prod.snd taken).symm ▸ payloadReplaced live _⟩
    · intro kind
      cases object with
      | command command => cases kind
      | data payload =>
          refine ⟨takeAll_stepBy_of_bare live, ?_, fun operation => perform_of_bare live⟩
          intro α look
          rw [lookupCommand_of_bare live]
          rfl

/-- A command takes steps by all four ways, two of them failing; beside it is a bare payload, to
    which two of the ways are closed. -/
theorem command_steps_by_every_way :
    let registry := ((empty {}).performAll
      [.insert {}, .insert { args := [[7]], names := some ("a", "b") }]).2
    let object : Object := .command ⟨"a", "b", { args := [[7]] }⟩
    let steps : List (Way × Payload.Step) := [(.edit, .push [0]), (.look, .get 2),
      (.editCommand, .setJson (.array [])), (.lookCommand, .count), (.edit, .remove (-2))]
    let carried := takeAll (stepBy 2) registry steps
    (∀ step ∈ steps, step.1.Open object.kind step.2) ∧
      carried.1 = [.ok .done, .error (.indexOutOfRange 2 2), .error .notObject, .ok (.count 2),
        .ok (.arg [7])] ∧
      registry.PayloadReplaced carried.2 2 object { args := [[0]] } ∧
      registry.perform (.commandStep 1 .pop) = (.error .notCommand, registry) := by
  intro registry object steps carried
  have admitted : ∀ step ∈ steps, step.1.Open object.kind step.2 := by
    intro step member
    simp only [steps, List.mem_cons, List.not_mem_nil, or_false] at member
    rcases member with rfl | rfl | rfl | rfl | rfl
    all_goals exact ⟨by decide, by decide⟩
  obtain ⟨-, behind, -⟩ := steps_alike_in_every_carrier object
  obtain ⟨answers, replaced⟩ := (behind registry 2 rfl).1 steps admitted
  obtain ⟨-, ofBare, -⟩ := steps_alike_in_every_carrier (.data .empty)
  have closed := ((ofBare registry 1 rfl).2 rfl).2.2 (.commandStep 1 .pop) rfl rfl
  exact ⟨admitted, answers.trans rfl, replaced, closed⟩

end Registry

end PayloadExchange
