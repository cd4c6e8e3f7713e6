import PayloadExchange.Payload

/-! # Steps on a payload

One step reads or changes a payload. A step that fails changes nothing; a batch of steps
ends at the first failure and keeps the changes made before it.
-/

namespace PayloadExchange.Payload

inductive Step where
  | setJsonText (text : String)
  | setJson (json : Json.Value)
  | push (arg : Bytes)
  | pop
  | get (index : Int64)
  | set (index : Int64) (arg : Bytes)
  | insert (index : Int64) (arg : Bytes)
  | remove (index : Int64)
  | clear
  | count
  | isEmpty
  | jsonText
  | state
  | dump
  /-- Breaks off with a message. -/
  | abort (message : String)

inductive Answer where
  | done
  | arg (bytes : Bytes)
  | count (count : Nat)
  | truth (value : Bool)
  | text (text : String)
  | state (payload : Payload)

/-- What a step answers and leaves behind, or why it fails. -/
def apply (payload : Payload) : Step → Except Fault (Answer × Payload)
  | .setJsonText text => return (.done, ← payload.setJsonText text)
  | .setJson json => return (.done, ← payload.setJson json)
  | .push arg => .ok (.done, payload.push arg)
  | .pop => do
      let (arg, rest) ← payload.pop
      return (.arg arg, rest)
  | .get index => return (.arg (← payload.get index), payload)
  | .set index arg => return (.done, ← payload.set index arg)
  | .insert index arg => return (.done, ← payload.insert index arg)
  | .remove index => do
      let (arg, rest) ← payload.remove index
      return (.arg arg, rest)
  | .clear => .ok (.done, payload.clear)
  | .count => .ok (.count payload.count, payload)
  | .isEmpty => .ok (.truth payload.args.isEmpty, payload)
  | .jsonText => .ok (.text payload.jsonText, payload)
  | .state => .ok (.state payload, payload)
  | .dump => .ok (.text payload.dump, payload)
  | .abort message => .error (.aborted message)

/-- Takes one step. After a failure the payload is as before. -/
def perform (payload : Payload) (step : Step) : Except Fault Answer × Payload :=
  match payload.apply step with
  | .ok (answer, changed) => (.ok answer, changed)
  | .error fault => (.error fault, payload)

/-- Takes steps in turn up to the first failure. -/
def performAll (payload : Payload) : List Step → Except Fault (List Answer) × Payload
  | [] => (.ok [], payload)
  | step :: steps =>
      match payload.perform step with
      | (.ok answer, changed) =>
          let (answers, final) := changed.performAll steps
          (answers.map (answer :: ·), final)
      | (.error fault, unchanged) => (.error fault, unchanged)

end PayloadExchange.Payload
