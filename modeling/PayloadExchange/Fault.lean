import PayloadExchange.Json.SyntaxError
import PayloadExchange.Text.Characters

/-! # Faults and their reports

A fault is the cause of a failed operation. What a caller gets to read is its report:
one of five kinds, and a detail in words.
-/

namespace PayloadExchange

/-- The number by which callers name a stored object; zero names nothing. -/
abbrev Handle := UInt64

inductive ReportKind where
  | invalidArgument
  | invalidOperation
  | parse
  | outOfRange
  /-- The operation broke off for a reason that is not the caller's. -/
  | internal
  deriving Repr, DecidableEq

namespace ReportKind

def all : List ReportKind :=
  [.invalidArgument, .invalidOperation, .parse, .outOfRange, .internal]

def name : ReportKind → String
  | invalidArgument => "InvalidArgument"
  | invalidOperation => "InvalidOperation"
  | parse => "Parse"
  | outOfRange => "OutOfRange"
  | internal => "Internal"

/-- The words before the detail. -/
def heading : ReportKind → String
  | invalidArgument => "Invalid argument: "
  | invalidOperation => "Invalid operation: "
  | parse => "Parse error: "
  | outOfRange => "Out of range: "
  | internal => "Internal error: "

theorem mem_all (kind : ReportKind) : kind ∈ all := by
  cases kind <;> simp [all]

end ReportKind

structure Report where
  kind : ReportKind
  detail : String
  deriving Repr, DecidableEq

namespace Report

/-- The text for a caller: the heading of the kind, then the detail. -/
def display (report : Report) : String := report.kind.heading ++ report.detail

/-- The text for a developer: the name of the kind, with the detail quoted. -/
def debug (report : Report) : String :=
  report.kind.name ++ "(" ++ String.ofList (Text.quoted report.detail) ++ ")"

end Report

/-- Why an operation failed. -/
inductive Fault where
  | emptyIdentifier
  | illegalIdentifier (text : String)
  | deadHandle (handle : Handle)
  | notCommand
  | registryFull (limit : UInt32)
  | stillLive (handles : List Handle)
  | malformedJson (error : Json.SyntaxError)
  | notObject
  /-- The index selects none of so many arguments. -/
  | indexOutOfRange (index : Int64) (count : Nat)
  | nothingToPop
  /-- The null pointer stands for a string. -/
  | nullString
  /-- The null pointer stands for a block that is not empty. -/
  | nullBlock
  | notUtf8
  | zeroInArgument
  | zeroInText
  /-- The caller's own edit broke off. -/
  | aborted (message : String)
  deriving Repr, DecidableEq

def Fault.report : Fault → Report
  | emptyIdentifier => ⟨.invalidArgument, "identifiers must not be empty"⟩
  | illegalIdentifier text =>
      ⟨.invalidArgument, "\"" ++ text
        ++ "\" is not a valid identifier; it contains characters outside [a-zA-Z0-9_]"⟩
  | deadHandle handle => ⟨.invalidArgument, "handle " ++ toString handle.toNat ++ " is invalid"⟩
  | notCommand => ⟨.invalidArgument, "object does not support the cmd interface"⟩
  | registryFull limit =>
      ⟨.invalidOperation, "handle table is full (" ++ toString limit.toNat ++ " live handles)"⟩
  | stillLive handles =>
      ⟨.invalidOperation, toString handles.length ++ " handle(s) still live: "
        ++ ", ".intercalate (handles.map fun handle => toString handle.toNat)⟩
  | malformedJson error => ⟨.parse, error.message⟩
  | notObject => ⟨.parse, "top-level JSON value must be an object"⟩
  | indexOutOfRange index count =>
      ⟨.outOfRange, "index " ++ toString index.toInt ++ " is out of range for "
        ++ toString count ++ " argument(s)"⟩
  | nothingToPop => ⟨.outOfRange, "pop from empty argument list"⟩
  | nullString => ⟨.invalidArgument, "unexpected NULL string"⟩
  | nullBlock => ⟨.invalidArgument, "unexpected NULL pointer"⟩
  | notUtf8 => ⟨.invalidArgument, "string is not valid UTF-8"⟩
  | zeroInArgument =>
      ⟨.invalidArgument, "argument contains a NUL byte; use the raw accessors"⟩
  | zeroInText => ⟨.internal, "string contains a NUL byte"⟩
  | aborted message => ⟨.internal, message⟩

end PayloadExchange
