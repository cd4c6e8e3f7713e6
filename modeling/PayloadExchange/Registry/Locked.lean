import PayloadExchange.Registry.Operation

/-! # The registry behind its locks

The entries are behind one lock, and each object is behind a lock of its own, which is held for as
long as the object is looked at or edited. Who breaks off meanwhile poisons the lock. Whoever comes
later is warned, and goes on with what is there.
-/

namespace PayloadExchange

def Fault.isAbort : Fault → Bool
  | aborted _ => true
  | _ => false

def brokeOff {α : Type} : Except Fault α → Bool
  | .ok _ => false
  | .error fault => fault.isAbort

/-- A value behind a lock. -/
structure Lock (α : Type) where
  value : α
  /-- Somebody broke off while holding the lock. -/
  poisoned : Bool := false

namespace Lock

variable {α β : Type}

/-- An attempt to lock. Behind a poisoned lock the value is handed out as an error. -/
def acquire (lock : Lock α) : Except α α :=
  if lock.poisoned then .error lock.value else .ok lock.value

/-- The value, with the warning passed over. -/
def recover (lock : Lock α) : α :=
  match lock.acquire with
  | .ok value => value
  | .error value => value

/-- Works on the value while the lock is held. What is left of it stays, also where the work
    breaks off. -/
def hold (lock : Lock α) (work : α → Except Fault β × α) : Except Fault β × Lock α :=
  let (result, value) := work lock.recover
  (result, { value, poisoned := lock.poisoned || brokeOff result })

def replace (lock : Lock α) (value : α) : Lock α := { lock with value }

end Lock

namespace Registry

/-- The object behind its lock. The slot is empty for those who came to it before the object was
    removed. -/
abbrev Slot := Lock (Option Object)

/-- The registry behind its locks. -/
structure Locked where
  config : Config := {}
  /-- The number to issue next; zero is passed over. -/
  next : Handle := 1
  slots : Lock (Std.ExtTreeMap Handle Slot) := { value := ∅ }

namespace Locked

variable {α β : Type}

/-- Goes on with what came out; a failure is the end. -/
def andThen (outcome : Except Fault α × Locked) (next : α → Locked → Except Fault β × Locked) :
    Except Fault β × Locked :=
  match outcome with
  | (.ok value, changed) => next value changed
  | (.error fault, changed) => (.error fault, changed)

def empty (config : Config) : Locked := { config }

def slot (locked : Locked) (handle : Handle) : Except Fault Slot :=
  match locked.slots.recover[handle]? with
  | some slot => .ok slot
  | none => .error (.deadHandle handle)

def kindOf (locked : Locked) (handle : Handle) : Kind :=
  match locked.slot handle with
  | .ok slot =>
      match slot.recover with
      | some object => object.kind
      | none => .invalid
  | .error _ => .invalid

def count (locked : Locked) : Nat := locked.slots.recover.size

def liveHandles (locked : Locked) : List Handle := locked.slots.recover.keys

def leakCheck (locked : Locked) : Except Fault Unit :=
  match locked.liveHandles with
  | [] => .ok ()
  | live => .error (.stillLive live)

def setSlot (locked : Locked) (handle : Handle) (slot : Slot) : Locked :=
  { locked with slots := locked.slots.replace (locked.slots.recover.insert handle slot) }

/-- Edits the object behind a handle while its lock is held, and not that of the entries. -/
def edit (locked : Locked) (handle : Handle) (change : Object → Except Fault α × Object) :
    Except Fault α × Locked :=
  match locked.slot handle with
  | .ok slot =>
      let (result, changed) := slot.hold fun
        | some object => ((change object).1, some (change object).2)
        | none => (.error (.deadHandle handle), none)
      (result, locked.setSlot handle changed)
  | .error fault => (.error fault, locked)

def look (locked : Locked) (handle : Handle) (see : Object → Except Fault α) :
    Except Fault α × Locked :=
  locked.edit handle fun object => (see object, object)

def lookCommand (locked : Locked) (handle : Handle) (see : Command → α) :
    Except Fault α × Locked :=
  locked.look handle fun object => see <$> object.asCommand

def editPayload (locked : Locked) (handle : Handle)
    (change : Payload → Except Fault α × Payload) : Except Fault α × Locked :=
  locked.edit handle (·.edit change)

/-- Replaces the payload behind a handle by that behind another, which is looked at first. -/
def assign (locked : Locked) (target source : Handle) : Except Fault Unit × Locked :=
  andThen (locked.look source fun object => .ok object.payload) fun payload seen =>
    seen.editPayload target fun _ => (.ok (), payload)

def issue (locked : Locked) : Handle := if locked.next = 0 then 1 else locked.next

def insert (locked : Locked) (object : Object) : Except Fault Handle × Locked :=
  if locked.config.maxLiveHandles ≠ 0 ∧ locked.config.maxLiveHandles.toNat ≤ locked.count then
    (.error (.registryFull locked.config.maxLiveHandles), locked)
  else
    (.ok locked.issue,
      { locked.setSlot locked.issue { value := some object } with next := locked.issue + 1 })

/-- Removes the slot behind a handle from the entries, and then the object from the slot. -/
def take (locked : Locked) (handle : Handle) : Except Fault Object × Locked :=
  match locked.slot handle with
  | .ok slot =>
      let without :=
        { locked with slots := locked.slots.replace (locked.slots.recover.erase handle) }
      match slot.recover with
      | some object => (.ok object, without)
      | none => (.error (.deadHandle handle), without)
  | .error fault => (.error fault, locked)

def clear (locked : Locked) : Nat × Locked :=
  (locked.count, { locked with slots := locked.slots.replace ∅ })

def answering (answer : α → Answer) (outcome : Except Fault α × Locked) :
    Except Fault Answer × Locked :=
  (answer <$> outcome.1, outcome.2)

def store (locked : Locked) (built : Except Fault Object) : Except Fault Answer × Locked :=
  match built with
  | .ok object => answering .handle (locked.insert object)
  | .error fault => (.error fault, locked)

def perform (locked : Locked) : Operation → Except Fault Answer × Locked
  | .create draft => locked.store draft.build
  | .insert parts => locked.store parts.build
  | .kind handle => (.ok (.kind (locked.kindOf handle)), locked)
  | .read handle => answering .object (locked.look handle .ok)
  | .dump handle => answering .text (locked.look handle fun object => .ok object.dump)
  | .delete handle => answering (fun _ => .done) (locked.take handle)
  | .take handle => answering .object (locked.take handle)
  | .move handle =>
      andThen (locked.take handle) fun object without => without.store (.ok object)
  | .clear =>
      let (removed, changed) := locked.clear
      (.ok (.count removed), changed)
  | .count => (.ok (.count locked.count), locked)
  | .isEmpty => (.ok (.truth (locked.count == 0)), locked)
  | .config => (.ok (.config locked.config), locked)
  | .leakCheck => ((fun _ => .done) <$> locked.leakCheck, locked)
  | .assign target source => answering (fun _ => .done) (locked.assign target source)
  | .interface handle => answering .text (locked.lookCommand handle (·.interface))
  | .operation handle => answering .text (locked.lookCommand handle (·.operation))
  | .commandPayload handle => answering .payload (locked.lookCommand handle (·.payload))
  | .step handle step => answering .step (locked.editPayload handle (·.perform step))
  | .commandStep handle step =>
      answering .step (locked.edit handle (·.editCommand (·.perform step)))
  | .batch handle steps => answering .batch (locked.editPayload handle (·.performAll steps))
  | .equal first second =>
      andThen (locked.look first .ok) fun a seen =>
        answering .truth (seen.look second fun b => .ok (a.same b))

def performAll (locked : Locked) : List Operation → List (Except Fault Answer) × Locked
  | [] => ([], locked)
  | operation :: operations =>
      let (answer, changed) := locked.perform operation
      let (answers, final) := changed.performAll operations
      (answer :: answers, final)

end Locked

end Registry

end PayloadExchange
