import PayloadExchange.Command
import PayloadExchange.Payload.Step

/-! # Objects

What can be stored under a handle: a bare payload, or a command. Both carry a payload, so
every step on payloads works on either.
-/

namespace PayloadExchange

inductive Kind where
  | invalid
  | payload
  | command
  deriving Repr, DecidableEq

/-- The published number of a kind. -/
def Kind.tag : Kind → Nat
  | invalid => 0
  | payload => 100
  | command => 101

inductive Object where
  | data (payload : Payload)
  | command (command : Command)

namespace Object

def kind : Object → Kind
  | data _ => .payload
  | command _ => .command

def payload : Object → Payload
  | data payload => payload
  | command named => named.payload

/-- The object with another payload; its kind and its names stay. -/
def withPayload : Object → Payload → Object
  | data _, payload => data payload
  | command named, payload => .command { named with payload }

theorem withPayload_payload (object : Object) : object.withPayload object.payload = object := by
  cases object <;> rfl

theorem withPayload_withPayload (object : Object) (payload later : Payload) :
    (object.withPayload payload).withPayload later = object.withPayload later := by
  cases object <;> rfl

def asCommand : Object → Except Fault Command
  | data _ => .error .notCommand
  | command named => .ok named

def same : Object → Object → Bool
  | data a, data b => a.same b
  | command a, command b => a.same b
  | _, _ => false

def edit {α : Type} (object : Object) (change : Payload → α × Payload) : α × Object :=
  let (result, payload) := change object.payload
  (result, object.withPayload payload)

/-- Edits the payload of a command and refuses everything else. -/
def editCommand {α : Type} (object : Object) (change : Payload → Except Fault α × Payload) :
    Except Fault α × Object :=
  match object with
  | data payload => (.error .notCommand, .data payload)
  | command named =>
      let (result, payload) := change named.payload
      (result, .command { named with payload })

def outline : Object → Outline
  | data payload => .wrapped "ArbData" payload.outline
  | command named => .wrapped "ArbCmd" named.outline

def dump (object : Object) : String := String.ofList (object.outline.pretty 0)

def dumpFlat (object : Object) : String := String.ofList object.outline.flat

end Object

/-- The parts of an object that is still to be put together. -/
structure Parts where
  json : Json.Value := .object []
  args : List Bytes := []
  /-- The names of the interface and the operation, for a command. -/
  names : Option (String × String) := none

/-- Puts an object together. The document is looked at first, then the names. -/
def Parts.build (parts : Parts) : Except Fault Object := do
  let payload ← Payload.ofParts parts.json parts.args
  match parts.names with
  | none => return .data payload
  | some (interface, operation) => return .command (← Command.make interface operation payload)

/-- The makings of an object whose document is still a text. -/
structure Draft where
  json : String := "\x7b\x7d"
  args : List Bytes := []
  /-- The names of the interface and the operation, for a command. -/
  names : Option (String × String) := none

/-- Builds the object. The document is read first. -/
def Draft.build (draft : Draft) : Except Fault Object := do
  let json ← (Json.parse draft.json).mapError .malformedJson
  Parts.build { json, args := draft.args, names := draft.names }

end PayloadExchange
