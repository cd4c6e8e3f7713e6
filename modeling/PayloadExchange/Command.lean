import PayloadExchange.Payload

/-! # Commands

A command names an operation of an interface and carries a payload for it. The two names are
identifiers: not empty, and made of ASCII letters, digits and underscores only.
-/

namespace PayloadExchange

namespace Identifier

def isAllowed (byte : UInt8) : Bool :=
  (0x61 ≤ byte && byte ≤ 0x7a) || (0x41 ≤ byte && byte ≤ 0x5a) || (0x30 ≤ byte && byte ≤ 0x39)
    || byte == 0x5f

def Valid (bytes : Bytes) : Prop := bytes ≠ [] ∧ ∀ byte ∈ bytes, isAllowed byte = true

/-- Accepts an identifier. The empty text has a fault of its own; any other text is
    quoted in full. -/
def check (text : String) : Except Fault Unit :=
  let bytes := Text.utf8 text
  if bytes.isEmpty then .error .emptyIdentifier
  else if bytes.all isAllowed then .ok ()
  else .error (.illegalIdentifier text)

theorem check_eq_ok_iff (text : String) : check text = .ok () ↔ Valid (Text.utf8 text) := by
  unfold check Valid
  cases h : Text.utf8 text with
  | nil => simp
  | cons byte rest => simp

end Identifier

structure Command where
  interface : String
  operation : String
  payload : Payload := {}

namespace Command

/-- A command under two identifiers; the interface is checked first. -/
def make (interface operation : String) (payload : Payload := {}) : Except Fault Command := do
  Identifier.check interface
  Identifier.check operation
  return { interface, operation, payload }

def same (a b : Command) : Bool :=
  a.interface == b.interface && a.operation == b.operation && a.payload.same b.payload

def outline (command : Command) : Outline :=
  .fields "ArbCmd" [
    ("interface_identifier", .leaf (Text.quoted command.interface)),
    ("operation_identifier", .leaf (Text.quoted command.operation)),
    ("data", command.payload.outline)]

end Command

end PayloadExchange
