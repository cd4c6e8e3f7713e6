import PayloadExchange.Boundary.Request

/-! # The host of many callers

Threads share one registry, and each has an error slot of its own. A request that fails
returns a value that no success returns, and leaves the text of its fault in the slot of
the calling thread; whether a success empties the slot is a setting.
-/

namespace PayloadExchange.Boundary

inductive Reply where
  /-- A handle; zero for a failure. -/
  | handle (handle : Handle)
  /-- A return code; -1 for a failure. -/
  | code (code : Int32)
  /-- A size; -1 for a failure. -/
  | size (size : Int64)
  /-- A size, -1 for a failure, and what is then found in the block. -/
  | copied (size : Int64) (contents : Bytes)
  /-- A string; null for a failure. -/
  | string (bytes : Option Bytes)
  | kind (kind : Kind)
  | version (number : UInt32)
  | schema (text : String)
  | nothing
  deriving DecidableEq

def Success.reply : Success → Reply
  | handle issued => .handle issued
  | done => .code 0
  | truth value => .code (if value then 1 else 0)
  | size n => .size (Int64.ofNat n)
  | copied n contents => .copied (Int64.ofNat n) contents
  | string bytes => .string (some bytes)

/-- What a failure returns. The caller's block is as it was. -/
def Request.failure : Request → Reply
  | newCommand .. | newPayload => .handle 0
  | delete _ | deleteAll | leakCheck | interfaceIs .. | operationIs .. | setJson ..
  | pushString .. | pushBlock .. | insertString .. | insertBlock .. | setString ..
  | setBlock .. | remove .. | clear _ | assign .. => .code (-1)
  | getSize .. | count _ => .size (-1)
  | popBlock _ block | getBlock _ _ block => .copied (-1) block.contents
  | dump _ | interfaceOf _ | operationOf _ | getJson _ | popString _ | getString .. => .string none

inductive Call where
  | request (request : Request)
  | kind (handle : Handle)
  | explain
  /-- Puts a text into the caller's error slot; the null pointer empties it. -/
  | setError (text : StringPointer)
  /-- Releases the null pointer, which does nothing. -/
  | releaseNull
  /-- Releases a string that a reply handed over. -/
  | release (bytes : Bytes)
  | version
  | schema

abbrev Thread := Nat

/-- What the threads share, and the error slot of each. -/
structure Host where
  registry : Registry
  /-- A success empties the slot of its thread. -/
  clearsOnSuccess : Bool
  /-- The text in each slot that is not empty. -/
  slots : Std.ExtTreeMap Thread Bytes := ∅
  nextThread : Thread := 1

namespace Host

/-- A host under an environment; its first thread is thread zero. -/
def start (environment : Environment) : Host where
  registry := .empty (.ofEnvironment environment)
  clearsOnSuccess := Setting.flag (environment Contract.clearErrorOnSuccessVariable) true

def explain (host : Host) (thread : Thread) : Option Bytes := host.slots[thread]?

def setSlot (host : Host) (thread : Thread) (text : Option Bytes) : Host :=
  { host with
    slots := match text with
      | some bytes => host.slots.insert thread bytes
      | none => host.slots.erase thread }

/-- What a fault leaves in a slot: its text, which as a string has no zero bytes. -/
def recorded (fault : Fault) : Bytes := (Text.utf8 fault.report.display).filter (· ≠ 0)

def request (host : Host) (thread : Thread) (request : Request) : Reply × Host :=
  match request.run host.registry with
  | (.ok success, registry) =>
      let host := { host with registry }
      (success.reply, if host.clearsOnSuccess then host.setSlot thread none else host)
  | (.error fault, registry) =>
      (request.failure, { host with registry }.setSlot thread (some (recorded fault)))

def call (host : Host) (thread : Thread) : Call → Reply × Host
  | .request request => host.request thread request
  | .kind handle => (.kind (host.registry.kindOf handle), host)
  | .explain => (.string (host.explain thread), host)
  | .setError text => (.nothing, host.setSlot thread (text.map Bytes.beforeNul))
  | .releaseNull | .release _ => (.nothing, host)
  | .version => (.version Contract.version, host)
  | .schema => (.schema Contract.schemaVersion, host)

def startThread (host : Host) : Thread × Host :=
  (host.nextThread,
    { host with nextThread := host.nextThread + 1 }.setSlot host.nextThread none)

end Host

/-- A step in the program of a thread. -/
inductive Step where
  | call (call : Call)
  /-- The program of a new thread, which is waited for. -/
  | thread (steps : List Step)

/-- The trace of a step: what came back, and then the text in the slot of the thread. -/
inductive Trace where
  | call (reply : Reply) (slot : Option Bytes)
  /-- The traces of a thread that was waited for. -/
  | thread (traces : List Trace) (slot : Option Bytes)

namespace Host

mutual

def run (host : Host) (thread : Thread) : Step → Trace × Host
  | .call call =>
      let (reply, host) := host.call thread call
      (.call reply (host.explain thread), host)
  | .thread steps =>
      let (child, host) := host.startThread
      let (traces, host) := host.runAll child steps
      (.thread traces (host.explain thread), host)

def runAll (host : Host) (thread : Thread) : List Step → List Trace × Host
  | [] => ([], host)
  | step :: steps =>
      let (trace, host) := host.run thread step
      let (traces, host) := host.runAll thread steps
      (trace :: traces, host)

end

end Host

end PayloadExchange.Boundary
