import PayloadExchange.Fault

/-! # Memory handed over by callers

What a callee makes of the pointers that it is given. A string ends at its first zero
byte; a block comes with its size, and a null pointer passes for a block of size zero
only.
-/

namespace PayloadExchange.Boundary

/-- A pointer to a zero-terminated string: null, or the memory it points to. Only what stands
    before the first zero byte is seen. -/
abbrev StringPointer := Option Bytes

inductive Block where
  /-- The null pointer, with the size claimed for it. -/
  | null (size : Nat)
  | bytes (contents : Bytes)
  deriving Repr, DecidableEq

def receiveBytes : StringPointer → Except Fault Bytes
  | none => .error .nullString
  | some memory => .ok memory.beforeNul

def receiveText (pointer : StringPointer) : Except Fault String := do
  match Text.ofUtf8? (← receiveBytes pointer) with
  | some text => .ok text
  | none => .error .notUtf8

/-- The contents of a block; the null pointer is an empty one if nothing is expected of it. -/
def receiveBlock : Block → Except Fault Bytes
  | .null size => if size = 0 then .ok [] else .error .nullBlock
  | .bytes contents => .ok contents

def returnBytes (bytes : Bytes) : Except Fault Bytes :=
  if 0 ∈ bytes then .error .zeroInText else .ok bytes

def returnText (text : String) : Except Fault Bytes := returnBytes (Text.utf8 text)

def returnArgument (arg : Bytes) : Except Fault Bytes :=
  if 0 ∈ arg then .error .zeroInArgument else .ok arg

/-- A block after as much of some bytes as fits was copied to its front. -/
def fill (block source : Bytes) : Bytes := source.take block.length ++ block.drop source.length

/-- What is found in a block afterwards; behind the null pointer there is nothing. -/
def Block.contents : Block → Bytes
  | .null _ => []
  | .bytes contents => contents

end PayloadExchange.Boundary
