import PayloadExchange.Payload.Step

/-! # The halves of a payload

A step is about the document of a payload or about its arguments. It hangs on that half alone and
leaves the other as it is, failures included.
-/

namespace PayloadExchange

namespace Payload

inductive Half where
  | document
  | arguments
  deriving DecidableEq

namespace Half

def other : Half → Half
  | document => arguments
  | arguments => document

/-- This half of one payload, with the other half of another. -/
def join (half : Half) (own rest : Payload) : Payload :=
  match half with
  | document => { json := own.json, args := rest.args }
  | arguments => { json := rest.json, args := own.args }

theorem join_self (half : Half) (payload : Payload) : half.join payload payload = payload := by
  cases half <;> rfl

theorem join_other (half : Half) (own rest : Payload) :
    half.other.join own rest = half.join rest own := by
  cases half <;> rfl

theorem other_ne (half : Half) : half.other ≠ half := by
  cases half <;> simp [other]

theorem eq_or_other (half which : Half) : which = half ∨ which = half.other := by
  cases half <;> cases which <;> simp [other]

end Half

theorem eq_of_halves {a b : Payload} (document : a.json = b.json) (arguments : a.args = b.args) :
    a = b := by
  cases a
  cases b
  simp_all

/-- The half that a step is about. To look at the whole, or to break off, is about neither. -/
def Step.half? : Step → Option Half
  | setJsonText _ | setJson _ | jsonText => some .document
  | push _ | pop | get _ | set .. | insert .. | remove _ | clear | count | isEmpty =>
      some .arguments
  | state | dump | abort _ => none

section

variable (own rest : Payload)

theorem setJson_join (json : Json.Value) : (Half.document.join own rest).setJson json
    = (Half.document.join · rest) <$> own.setJson json := by
  unfold setJson
  split <;> rfl

theorem setJsonText_join (text : String) : (Half.document.join own rest).setJsonText text
    = (Half.document.join · rest) <$> own.setJsonText text := by
  unfold setJsonText
  split
  · exact setJson_join own rest _
  · rfl

theorem pop_join : (Half.arguments.join own rest).pop
    = Prod.map id (Half.arguments.join · rest) <$> own.pop := by
  simp only [pop, Half.join]
  cases own.args.getLast? <;> rfl

theorem get_join (index : Int64) : (Half.arguments.join own rest).get index = own.get index := rfl

theorem set_join (index : Int64) (arg : Bytes) : (Half.arguments.join own rest).set index arg
    = (Half.arguments.join · rest) <$> own.set index arg := by
  show (own.place own.args.length index >>= _) = _ <$> (own.place own.args.length index >>= _)
  cases own.place own.args.length index <;> rfl

theorem insert_join (index : Int64) (arg : Bytes) :
    (Half.arguments.join own rest).insert index arg
      = (Half.arguments.join · rest) <$> own.insert index arg := by
  show (own.place (own.args.length + 1) index >>= _)
    = _ <$> (own.place (own.args.length + 1) index >>= _)
  cases own.place (own.args.length + 1) index <;> rfl

theorem remove_join (index : Int64) : (Half.arguments.join own rest).remove index
    = Prod.map id (Half.arguments.join · rest) <$> own.remove index := by
  show (own.place own.args.length index >>= _) = _ <$> (own.place own.args.length index >>= _)
  cases own.place own.args.length index <;> rfl

/-- A step does to its own half what it does, whatever the other half. -/
theorem apply_join {half : Half} {step : Step} (about : step.half? = some half) :
    (half.join own rest).apply step = Prod.map id (half.join · rest) <$> own.apply step := by
  cases step with
  | state | dump | abort message => cases about
  | setJsonText text =>
      obtain rfl := Option.some.inj about
      simp only [apply, setJsonText_join]
      cases own.setJsonText text <;> rfl
  | setJson json =>
      obtain rfl := Option.some.inj about
      simp only [apply, setJson_join]
      cases own.setJson json <;> rfl
  | push arg | clear | count | isEmpty | jsonText =>
      obtain rfl := Option.some.inj about
      rfl
  | pop =>
      obtain rfl := Option.some.inj about
      simp only [apply, pop_join]
      cases own.pop <;> rfl
  | get index =>
      obtain rfl := Option.some.inj about
      simp only [apply, get_join]
      cases own.get index <;> rfl
  | set index arg =>
      obtain rfl := Option.some.inj about
      simp only [apply, set_join]
      cases own.set index arg <;> rfl
  | insert index arg =>
      obtain rfl := Option.some.inj about
      simp only [apply, insert_join]
      cases own.insert index arg <;> rfl
  | remove index =>
      obtain rfl := Option.some.inj about
      simp only [apply, remove_join]
      cases own.remove index <;> rfl

end

/-- A step does to the half that it is about what it does whatever the other half. -/
def Halved {α β : Type} (take : Payload → α → β × Payload) (half? : α → Option Half) : Prop :=
  ∀ (half : Half) (step : α), half? step = some half → ∀ own rest : Payload,
    take (half.join own rest) step = ((take own step).1, half.join (take own step).2 rest)

theorem Halved.json_of_arguments {α β : Type} {take : Payload → α → β × Payload}
    {half? : α → Option Half} (halved : Halved take half?) {step : α}
    (about : half? step = some .arguments) (payload : Payload) :
    (take payload step).2.json = payload.json := by
  have kept := halved .arguments step about payload payload
  rw [Half.join_self] at kept
  exact congrArg (·.2.json) kept

theorem halved_perform : Halved perform Step.half? := by
  intro half step about own rest
  rw [perform, perform, apply_join own rest about]
  cases own.apply step <;> rfl

end Payload

end PayloadExchange
