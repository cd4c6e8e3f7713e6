import PayloadExchange.Registry

/-! # Operations on a registry

One operation per thing that a host may ask of a registry, with its answer. A run is a
list of operations.
-/

namespace PayloadExchange.Registry

inductive Operation where
  /-- Builds an object and stores it. -/
  | create (draft : Draft)
  | insert (parts : Parts)
  | kind (handle : Handle)
  | read (handle : Handle)
  | dump (handle : Handle)
  | delete (handle : Handle)
  /-- Removes an object and hands it over. -/
  | take (handle : Handle)
  /-- Removes an object and stores it under a new handle. -/
  | move (handle : Handle)
  | clear
  | count
  | isEmpty
  | config
  /-- Asks that nothing be live. -/
  | leakCheck
  /-- Copies a payload. -/
  | assign (target source : Handle)
  | interface (handle : Handle)
  | operation (handle : Handle)
  | commandPayload (handle : Handle)
  /-- Takes a step on the payload of any object. -/
  | step (handle : Handle) (step : Payload.Step)
  /-- Takes a step on the payload of a command. -/
  | commandStep (handle : Handle) (step : Payload.Step)
  /-- Takes several steps on the payload of any object, in one edit. -/
  | batch (handle : Handle) (steps : List Payload.Step)
  | equal (first second : Handle)

/-- The handles that an operation names, in the order in which they are looked up. -/
def Operation.names : Operation → List Handle
  | create _ | insert _ | clear | count | isEmpty | config | leakCheck => []
  | kind handle | read handle | dump handle | delete handle | take handle | move handle
  | interface handle | operation handle | commandPayload handle | step handle _
  | commandStep handle _ | batch handle _ => [handle]
  | assign target source => [source, target]
  | equal first second => [first, second]

inductive Answer where
  | done
  | handle (handle : Handle)
  | kind (kind : Kind)
  | object (object : Object)
  | payload (payload : Payload)
  | text (text : String)
  | count (count : Nat)
  | truth (value : Bool)
  | config (config : Config)
  | step (answer : Payload.Answer)
  | batch (answers : List Payload.Answer)

/-- An answer that changes nothing. -/
def reading (registry : Registry) (answer : Except Fault Answer) :
    Except Fault Answer × Registry :=
  (answer, registry)

/-- An answer that comes with a change, or a failure that changes nothing. -/
def changing (registry : Registry) (result : Except Fault (Answer × Registry)) :
    Except Fault Answer × Registry :=
  match result with
  | .ok (answer, changed) => (.ok answer, changed)
  | .error fault => (.error fault, registry)

def perform (registry : Registry) : Operation → Except Fault Answer × Registry
  | .create draft => registry.changing do
      let (handle, changed) ← registry.insert (← draft.build)
      return (.handle handle, changed)
  | .insert parts => registry.changing do
      let (handle, changed) ← registry.insert (← parts.build)
      return (.handle handle, changed)
  | .kind handle => registry.reading (.ok (.kind (registry.kindOf handle)))
  | .read handle => registry.reading (.object <$> registry.lookup handle)
  | .dump handle => registry.reading (.text <$> registry.dump handle)
  | .delete handle => registry.changing do return (.done, ← registry.delete handle)
  | .take handle => registry.changing do
      let (object, changed) ← registry.take handle
      return (.object object, changed)
  | .move handle =>
      match registry.take handle with
      | .ok (object, without) => without.changing do
          let (moved, changed) ← without.insert object
          return (.handle moved, changed)
      | .error fault => (.error fault, registry)
  | .clear =>
      let (removed, changed) := registry.clear
      (.ok (.count removed), changed)
  | .count => registry.reading (.ok (.count registry.count))
  | .isEmpty => registry.reading (.ok (.truth (registry.count == 0)))
  | .config => registry.reading (.ok (.config registry.config))
  | .leakCheck => registry.reading ((fun _ => .done) <$> registry.leakCheck)
  | .assign target source =>
      let (result, changed) := registry.assign target source
      ((fun _ => .done) <$> result, changed)
  | .interface handle =>
      registry.reading ((.text ·.interface) <$> registry.lookupCommand handle)
  | .operation handle =>
      registry.reading ((.text ·.operation) <$> registry.lookupCommand handle)
  | .commandPayload handle =>
      registry.reading ((.payload ·.payload) <$> registry.lookupCommand handle)
  | .step handle step =>
      let (result, changed) := registry.editPayload handle (·.perform step)
      (.step <$> result, changed)
  | .commandStep handle step =>
      let (result, changed) := registry.edit handle (·.editCommand (·.perform step))
      (.step <$> result, changed)
  | .batch handle steps =>
      let (result, changed) := registry.editPayload handle (·.performAll steps)
      (.batch <$> result, changed)
  | .equal first second => registry.reading do
      let a ← registry.lookup first
      let b ← registry.lookup second
      return .truth (a.same b)

/-- Performs operations in turn, whatever comes of each. -/
def performAll (registry : Registry) : List Operation → List (Except Fault Answer) × Registry
  | [] => ([], registry)
  | operation :: operations =>
      let (answer, changed) := registry.perform operation
      let (answers, final) := changed.performAll operations
      (answer :: answers, final)

end PayloadExchange.Registry
