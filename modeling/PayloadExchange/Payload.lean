import PayloadExchange.Fault
import PayloadExchange.Index
import PayloadExchange.Json.Parser
import PayloadExchange.Outline

/-! # Payloads

A payload is a JSON object together with a list of arguments, each a byte string. An
access selects one of the arguments by a signed index. An insertion selects one of the
gaps before, between and behind them, of which there is one more, by the same rule.
-/

namespace PayloadExchange

structure Payload where
  json : Json.Value := .object []
  /-- The arguments, in order. -/
  args : List Bytes := []

namespace Payload

def empty : Payload := {}

/-- Replaces the document, which has to be an object. -/
def setJson (payload : Payload) (json : Json.Value) : Except Fault Payload :=
  if json.isObject then .ok { payload with json } else .error .notObject

def ofParts (json : Json.Value) (args : List Bytes) : Except Fault Payload :=
  setJson { args } json

/-- Replaces the document by the one that a text is the form of. -/
def setJsonText (payload : Payload) (text : String) : Except Fault Payload :=
  match Json.parse text with
  | .ok json => payload.setJson json
  | .error error => .error (.malformedJson error)

def jsonText (payload : Payload) : String := payload.json.text

def count (payload : Payload) : Nat := payload.args.length

def push (payload : Payload) (arg : Bytes) : Payload :=
  { payload with args := payload.args ++ [arg] }

def pop (payload : Payload) : Except Fault (Bytes × Payload) :=
  match payload.args.getLast? with
  | some arg => .ok (arg, { payload with args := payload.args.dropLast })
  | none => .error .nothingToPop

/-- The place that an index selects among so many; the fault reports the number of
    arguments. -/
def place (payload : Payload) (places : Nat) (index : Int64) : Except Fault (Fin places) :=
  match place? places index with
  | some place => .ok place
  | none => .error (.indexOutOfRange index payload.count)

def get (payload : Payload) (index : Int64) : Except Fault Bytes := do
  let place ← payload.place payload.args.length index
  return payload.args.get place

def set (payload : Payload) (index : Int64) (arg : Bytes) : Except Fault Payload := do
  let place ← payload.place payload.args.length index
  return { payload with args := payload.args.set place arg }

/-- Inserts an argument into the gap at an index. -/
def insert (payload : Payload) (index : Int64) (arg : Bytes) : Except Fault Payload := do
  let place ← payload.place (payload.args.length + 1) index
  return { payload with args := payload.args.insertIdx place arg }

def remove (payload : Payload) (index : Int64) : Except Fault (Bytes × Payload) := do
  let place ← payload.place payload.args.length index
  return (payload.args.get place, { payload with args := payload.args.eraseIdx place })

/-- Removes all arguments and keeps the document. -/
def clear (payload : Payload) : Payload := { payload with args := [] }

/-- Equality of documents, numbers compared as numbers, and of arguments. -/
def same (a b : Payload) : Bool := a.json.same b.json && a.args == b.args

def outline (payload : Payload) : Outline :=
  .fields "ArbData" [
    ("json", .ofValue payload.json),
    ("args", .list [] (payload.args.map .ofBytes))]

def dump (payload : Payload) : String := String.ofList (payload.outline.pretty 0)

end Payload

end PayloadExchange
