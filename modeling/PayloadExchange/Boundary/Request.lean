import PayloadExchange.Boundary.Memory
import PayloadExchange.Registry

/-! # Requests across the boundary

A request is a call that works on the shared registry. Pointers are looked at first, then
the handle, then the kind of the object, and only then the payload. A request that fails
leaves the registry and the caller's memory alone.
-/

namespace PayloadExchange.Boundary

/-- A call that can fail. -/
inductive Request where
  | dump (handle : Handle)
  | delete (handle : Handle)
  | deleteAll
  /-- Asks that nothing be live. -/
  | leakCheck
  /-- Stores a command with an empty payload. -/
  | newCommand (interface operation : StringPointer)
  | interfaceOf (handle : Handle)
  | operationOf (handle : Handle)
  | interfaceIs (handle : Handle) (text : StringPointer)
  | operationIs (handle : Handle) (text : StringPointer)
  /-- Stores an empty payload. -/
  | newPayload
  /-- Reads the document of a payload from a string. -/
  | setJson (handle : Handle) (text : StringPointer)
  | getJson (handle : Handle)
  | pushString (handle : Handle) (text : StringPointer)
  | pushBlock (handle : Handle) (block : Block)
  /-- Removes the last argument and returns it as a string. -/
  | popString (handle : Handle)
  /-- Removes the last argument and copies it into a block. -/
  | popBlock (handle : Handle) (block : Block)
  | insertString (handle : Handle) (index : Int64) (text : StringPointer)
  | insertBlock (handle : Handle) (index : Int64) (block : Block)
  | setString (handle : Handle) (index : Int64) (text : StringPointer)
  | setBlock (handle : Handle) (index : Int64) (block : Block)
  | getString (handle : Handle) (index : Int64)
  /-- Copies an argument into a block. -/
  | getBlock (handle : Handle) (index : Int64) (block : Block)
  | getSize (handle : Handle) (index : Int64)
  | remove (handle : Handle) (index : Int64)
  | count (handle : Handle)
  | clear (handle : Handle)
  /-- Copies a payload. -/
  | assign (target source : Handle)

/-- The handles that a request names, in the order in which they are looked up. -/
def Request.names : Request → List Handle
  | deleteAll | leakCheck | newCommand .. | newPayload => []
  | dump handle | delete handle | interfaceOf handle | operationOf handle | interfaceIs handle _
  | operationIs handle _ | setJson handle _ | getJson handle | pushString handle _
  | pushBlock handle _ | popString handle | popBlock handle _ | insertString handle ..
  | insertBlock handle .. | setString handle .. | setBlock handle .. | getString handle _
  | getBlock handle .. | getSize handle _ | remove handle _ | count handle | clear handle =>
      [handle]
  | assign target source => [source, target]

/-- What is wrong with the pointers of a request, if anything is. -/
def Request.pointers : Request → Except Fault Unit
  | newCommand interface operation => do
      discard (receiveText interface)
      discard (receiveText operation)
  | setJson _ text => discard (receiveText text)
  | interfaceIs _ text | operationIs _ text | pushString _ text | insertString _ _ text
  | setString _ _ text => discard (receiveBytes text)
  | pushBlock _ block | popBlock _ block | insertBlock _ _ block | setBlock _ _ block
  | getBlock _ _ block => discard (receiveBlock block)
  | dump _ | delete _ | deleteAll | leakCheck | interfaceOf _ | operationOf _ | newPayload
  | getJson _ | popString _ | getString .. | getSize .. | remove .. | count _ | clear _
  | assign .. => .ok ()

/-- What a request that succeeds has to say. -/
inductive Success where
  | handle (handle : Handle)
  | done
  | truth (value : Bool)
  | size (size : Nat)
  /-- The size of an argument, and the block after the copy. -/
  | copied (size : Nat) (contents : Bytes)
  | string (bytes : Bytes)

namespace Request

def reading (registry : Registry) (handle : Handle) (look : Object → Except Fault Success) :
    Except Fault Success × Registry :=
  (registry.lookup handle >>= look, registry)

/-- Changes the payload behind a handle; a change that fails is none. -/
def changing (registry : Registry) (handle : Handle)
    (change : Payload → Except Fault (Success × Payload)) : Except Fault Success × Registry :=
  registry.editPayload handle fun payload =>
    match change payload with
    | .ok (success, changed) => (.ok success, changed)
    | .error fault => (.error fault, payload)

/-- Goes on with what was received, if it is acceptable. -/
def receiving {α : Type} (registry : Registry) (received : Except Fault α)
    (proceed : α → Except Fault Success × Registry) : Except Fault Success × Registry :=
  match received with
  | .ok value => proceed value
  | .error fault => (.error fault, registry)

def storing (registry : Registry) (object : Except Fault Object) :
    Except Fault Success × Registry :=
  match object >>= registry.insert with
  | .ok (handle, changed) => (.ok (.handle handle), changed)
  | .error fault => (.error fault, registry)

/-- Removes the last argument and returns it as a string. An argument that is no string is
    put back. -/
def popStringFrom (payload : Payload) : Except Fault Success × Payload :=
  match payload.pop with
  | .error fault => (.error fault, payload)
  | .ok (arg, rest) =>
      match returnArgument arg with
      | .ok bytes => (.ok (.string bytes), rest)
      | .error fault => (.error fault, rest.push arg)

def run (registry : Registry) : Request → Except Fault Success × Registry
  | dump handle => reading registry handle fun object => .string <$> returnText object.dump
  | delete handle =>
      match registry.delete handle with
      | .ok changed => (.ok .done, changed)
      | .error fault => (.error fault, registry)
  | deleteAll => (.ok .done, registry.clear.2)
  | leakCheck => ((fun _ => .done) <$> registry.leakCheck, registry)
  | newCommand interface operation => storing registry do
      let interface ← receiveText interface
      let operation ← receiveText operation
      return .command (← Command.make interface operation)
  | interfaceOf handle => reading registry handle fun object => do
      return .string (← returnText (← object.asCommand).interface)
  | operationOf handle => reading registry handle fun object => do
      return .string (← returnText (← object.asCommand).operation)
  | interfaceIs handle text => receiving registry (receiveBytes text) fun bytes =>
      reading registry handle fun object => do
        return .truth (Text.utf8 (← object.asCommand).interface == bytes)
  | operationIs handle text => receiving registry (receiveBytes text) fun bytes =>
      reading registry handle fun object => do
        return .truth (Text.utf8 (← object.asCommand).operation == bytes)
  | newPayload => storing registry (.ok (.data .empty))
  | setJson handle text => receiving registry (receiveText text) fun text =>
      changing registry handle fun payload => return (.done, ← payload.setJsonText text)
  | getJson handle => reading registry handle fun object =>
      .string <$> returnText object.payload.jsonText
  | pushString handle text => receiving registry (receiveBytes text) fun bytes =>
      changing registry handle fun payload => .ok (.done, payload.push bytes)
  | pushBlock handle block => receiving registry (receiveBlock block) fun bytes =>
      changing registry handle fun payload => .ok (.done, payload.push bytes)
  | popString handle => registry.editPayload handle popStringFrom
  | popBlock handle block => receiving registry (receiveBlock block) fun contents =>
      changing registry handle fun payload => do
        let (arg, rest) ← payload.pop
        return (.copied arg.length (fill contents arg), rest)
  | insertString handle index text => receiving registry (receiveBytes text) fun bytes =>
      changing registry handle fun payload => return (.done, ← payload.insert index bytes)
  | insertBlock handle index block => receiving registry (receiveBlock block) fun bytes =>
      changing registry handle fun payload => return (.done, ← payload.insert index bytes)
  | setString handle index text => receiving registry (receiveBytes text) fun bytes =>
      changing registry handle fun payload => return (.done, ← payload.set index bytes)
  | setBlock handle index block => receiving registry (receiveBlock block) fun bytes =>
      changing registry handle fun payload => return (.done, ← payload.set index bytes)
  | getString handle index => reading registry handle fun object => do
      return .string (← returnArgument (← object.payload.get index))
  | getBlock handle index block => receiving registry (receiveBlock block) fun contents =>
      reading registry handle fun object => do
        let arg ← object.payload.get index
        return .copied arg.length (fill contents arg)
  | getSize handle index => reading registry handle fun object => do
      return .size (← object.payload.get index).length
  | remove handle index => changing registry handle fun payload => do
      let (_, rest) ← payload.remove index
      return (.done, rest)
  | count handle => reading registry handle fun object => .ok (.size object.payload.count)
  | clear handle => changing registry handle fun payload => .ok (.done, payload.clear)
  | assign target source =>
      let (result, changed) := registry.assign target source
      ((fun _ => .done) <$> result, changed)

end Request

end PayloadExchange.Boundary
