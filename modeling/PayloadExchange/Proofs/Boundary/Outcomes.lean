import PayloadExchange.Boundary.Memory
import PayloadExchange.Proofs.Boundary.Wording
import PayloadExchange.Registry

/-! # How things come out

Of each operation that a request is made of: what holds of the value if there is one, and of the
fault if there is none. Of those that change a state, moreover, that a failure leaves it as it
was.
-/

namespace PayloadExchange

/-- The value is as it should be, or else the fault is. -/
def Gives {α : Type} (told : Fault → Prop) (good : α → Prop) : Except Fault α → Prop
  | .ok value => good value
  | .error fault => told fault

namespace Gives

variable {α β : Type} {told : Fault → Prop} {good : α → Prop} {better : β → Prop}
  {result : Except Fault α}

theorem bind (first : Gives told good result) {next : α → Except Fault β}
    (second : ∀ value, good value → Gives told better (next value)) :
    Gives told better (result >>= next) := by
  cases result with
  | ok value => exact second value first
  | error fault => exact first

theorem map (first : Gives told good result) {f : α → β}
    (second : ∀ value, good value → better (f value)) : Gives told better (f <$> result) := by
  cases result with
  | ok value => exact second value first
  | error fault => exact first

end Gives

/-- The value is as it should be, or else nothing has changed and the fault is as it should be. -/
def Settles {α σ : Type} (told : Fault → Prop) (good : α → Prop) (before : σ) :
    Except Fault α × σ → Prop
  | (.ok value, _) => good value
  | (.error fault, after) => told fault ∧ after = before

theorem Settles.map {α β σ : Type} {told : Fault → Prop} {good : α → Prop} {better : β → Prop}
    {before : σ} {outcome : Except Fault α × σ} (settled : Settles told good before outcome)
    {f : α → β} (second : ∀ value, good value → better (f value)) :
    Settles told better before (f <$> outcome.1, outcome.2) := by
  obtain ⟨result, after⟩ := outcome
  cases result with
  | ok value => exact second value settled
  | error fault => exact settled

theorem Gives.settles {α σ : Type} {told : Fault → Prop} {good : α → Prop} {before : σ}
    {result : Except Fault α} (given : Gives told good result) :
    Settles told good before (result, before) := by
  cases result with
  | ok value => exact given
  | error fault => exact ⟨given, rfl⟩

/-- The fault can be put in words and, as long as things are in order, is no internal one. -/
def Fault.Told (order : Prop) (fault : Fault) : Prop :=
  fault.Clean ∧ (order → fault.report.kind ≠ .internal)

variable {order : Prop}

theorem Fault.clean_of_none {fault : Fault} (none : fault.quoted = none) : fault.Clean := by
  intro text member
  simp [none] at member

theorem Fault.told_of_none {fault : Fault} (none : fault.quoted = none)
    (external : fault.report.kind ≠ .internal) : fault.Told order :=
  ⟨clean_of_none none, fun _ => external⟩

namespace Payload

variable {payload : Payload}

theorem setJsonText_gives (text : String) :
    Gives (Fault.Told order) (fun _ => True) (payload.setJsonText text) := by
  unfold setJsonText setJson
  split
  · split
    · trivial
    · exact Fault.told_of_none rfl nofun
  · exact Fault.told_of_none rfl nofun

theorem place_gives {places : Nat} (index : Int64) :
    Gives (Fault.Told order) (fun _ => True) (payload.place places index) := by
  unfold place
  split
  · trivial
  · exact Fault.told_of_none rfl nofun

theorem get_gives (index : Int64) :
    Gives (Fault.Told order) (· ∈ payload.args) (payload.get index) :=
  (place_gives index).bind fun place _ => List.get_mem payload.args place

theorem set_gives (index : Int64) (arg : Bytes) :
    Gives (Fault.Told order) (fun _ => True) (payload.set index arg) :=
  (place_gives index).bind fun _ _ => trivial

theorem insert_gives (index : Int64) (arg : Bytes) :
    Gives (Fault.Told order) (fun _ => True) (payload.insert index arg) :=
  (place_gives index).bind fun _ _ => trivial

theorem remove_gives (index : Int64) :
    Gives (Fault.Told order) (fun _ => True) (payload.remove index) :=
  (place_gives index).bind fun _ _ => trivial

theorem eq_push_of_pop {rest : Payload} {arg : Bytes} (popped : payload.pop = .ok (arg, rest)) :
    payload = rest.push arg := by
  unfold pop at popped
  split at popped
  · next last present =>
      obtain ⟨front, same⟩ := List.getLast?_eq_some_iff.1 present
      obtain ⟨rfl, rfl⟩ := Prod.mk.inj (Except.ok.inj popped)
      cases payload
      simp_all [push]
  · cases popped

theorem pop_gives :
    Gives (Fault.Told order) (fun popped => payload = popped.2.push popped.1) payload.pop := by
  cases popped : payload.pop with
  | ok found => exact eq_push_of_pop popped
  | error fault =>
      unfold pop at popped
      split at popped
      · cases popped
      · obtain rfl := Except.error.inj popped
        exact Fault.told_of_none rfl nofun

end Payload

namespace Boundary

theorem zero_not_mem_beforeNul (memory : Bytes) : 0 ∉ memory.beforeNul :=
  fun member => absurd (List.all_eq_true.1 List.all_takeWhile 0 member) (by decide)

theorem receiveBytes_gives (pointer : StringPointer) :
    Gives (Fault.Told order) (fun bytes => 0 ∉ bytes) (receiveBytes pointer) := by
  cases pointer with
  | none => exact Fault.told_of_none rfl nofun
  | some memory => exact zero_not_mem_beforeNul memory

theorem receiveText_gives (pointer : StringPointer) :
    Gives (Fault.Told order) Text.Whole (receiveText pointer) := by
  apply (receiveBytes_gives pointer).bind
  intro bytes noZero
  cases read : Text.ofUtf8? bytes with
  | none => exact Fault.told_of_none rfl nofun
  | some text =>
      show Text.Whole text
      rwa [Text.Whole, Text.utf8_of_ofUtf8? read]

theorem receiveBlock_gives (block : Block) :
    Gives (Fault.Told order) (fun _ => True) (receiveBlock block) := by
  unfold receiveBlock
  split
  · split
    · trivial
    · exact Fault.told_of_none rfl nofun
  · trivial

theorem returnBytes_gives {bytes : Bytes} (ended : order → 0 ∉ bytes) :
    Gives (Fault.Told order) (fun _ => True) (returnBytes bytes) := by
  unfold returnBytes
  split
  · next zero => exact ⟨Fault.clean_of_none rfl, fun good => absurd zero (ended good)⟩
  · trivial

theorem returnArgument_gives (arg : Bytes) :
    Gives (Fault.Told order) (fun _ => True) (returnArgument arg) := by
  unfold returnArgument
  split
  · exact Fault.told_of_none rfl nofun
  · trivial

end Boundary

theorem Object.asCommand_gives (object : Object) :
    Gives (Fault.Told order) (fun _ => True) object.asCommand := by
  cases object with
  | data payload => exact Fault.told_of_none rfl nofun
  | command named => trivial

theorem Identifier.check_gives {text : String} (whole : Text.Whole text) :
    Gives (Fault.Told order) (fun _ => True) (Identifier.check text) := by
  unfold check
  simp only
  split
  · exact Fault.told_of_none rfl nofun
  · split
    · trivial
    · refine ⟨?_, nofun⟩
      intro quoted same
      obtain rfl := Option.some.inj same
      exact whole

theorem Command.make_gives {interface operation : String} (first : Text.Whole interface)
    (second : Text.Whole operation) :
    Gives (Fault.Told order) (fun _ => True) (Command.make interface operation) :=
  (Identifier.check_gives first).bind fun _ _ =>
    (Identifier.check_gives second).bind fun _ _ => trivial

namespace Registry

variable {α : Type} {good : α → Prop} {registry : Registry} {handle : Handle}

theorem lookup_gives (handle : Handle) :
    Gives (Fault.Told order) (fun object => registry.entries[handle]? = some object)
      (registry.lookup handle) := by
  unfold lookup
  split
  · next object live => exact live
  · exact Fault.told_of_none rfl nofun

theorem issue_ne_zero (registry : Registry) : registry.issue ≠ 0 := by
  unfold issue
  split
  · decide
  · assumption

theorem insert_gives (object : Object) :
    Gives (Fault.Told order) (fun inserted => inserted.1 ≠ 0) (registry.insert object) := by
  unfold insert
  split
  · exact Fault.told_of_none rfl nofun
  · exact registry.issue_ne_zero

theorem delete_gives (handle : Handle) :
    Gives (Fault.Told order) (fun _ => True) (registry.delete handle) := by
  unfold delete take
  split
  · trivial
  · exact Fault.told_of_none rfl nofun

theorem leakCheck_gives : Gives (Fault.Told order) (fun _ => True) registry.leakCheck := by
  unfold leakCheck
  split
  · trivial
  · exact Fault.told_of_none rfl nofun

/-- An edit settles if it does so on the payload, also where it takes something out and puts
    it back. -/
theorem editPayload_settles {change : Payload → Except Fault α × Payload}
    (each : ∀ object, registry.entries[handle]? = some object →
      Settles (Fault.Told order) good object.payload (change object.payload)) :
    Settles (Fault.Told order) good registry (registry.editPayload handle change) := by
  unfold editPayload edit
  split
  · next object live =>
      have settled := each object live
      show Settles (Fault.Told order) good registry ((change object.payload).1, { registry with
        entries := registry.entries.insert handle
          (object.withPayload (change object.payload).2) })
      generalize change object.payload = outcome at settled
      obtain ⟨result, payload⟩ := outcome
      cases result with
      | ok value => exact settled
      | error fault =>
          obtain ⟨told, rfl⟩ := settled
          refine ⟨told, ?_⟩
          simp only [object.withPayload_payload]
          exact entries_insert_self live
  · exact ⟨Fault.told_of_none rfl nofun, rfl⟩

theorem assign_settles (target source : Handle) :
    Settles (Fault.Told order) (fun _ => True) registry (registry.assign target source) := by
  unfold assign
  have found : Gives (Fault.Told order) _ (registry.lookup source) := registry.lookup_gives source
  split
  · exact editPayload_settles fun _ _ => trivial
  · next fault dead =>
      rw [dead] at found
      exact ⟨found, rfl⟩

end Registry

end PayloadExchange
