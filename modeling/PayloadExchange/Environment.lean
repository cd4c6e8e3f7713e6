import PayloadExchange.Text.Characters
import PayloadExchange.Text.Utf8

/-! # The published contract and the settings

Callers of the exchange rely on the version numbers and on the names of the variables. A
setting that is unset, or that does not read as one of its values, takes its default.
-/

namespace PayloadExchange

namespace Contract

def version : UInt32 := 1

def schemaVersion : String := "arbi.abi@0.1.0"

/-- The variable that limits the number of live handles. -/
def maxLiveHandlesVariable : String := "ARBI_MAX_LIVE_HANDLES"

/-- The variable that says whether a success empties the caller's error slot. -/
def clearErrorOnSuccessVariable : String := "ARBI_CLEAR_ERROR_ON_SUCCESS"

end Contract

/-- The value of each environment variable; `none` where it is unset. -/
abbrev Environment := String → Option Bytes

namespace Setting

/-- A setting as text; a value that is not UTF-8 counts as unset. -/
def text? (value : Option Bytes) : Option String := value.bind Text.ofUtf8?

/-- The truth value that a text names. -/
def truth? (text : String) : Option Bool :=
  if text ∈ ["1", "true", "TRUE", "yes", "YES"] then some true
  else if text ∈ ["0", "false", "FALSE", "no", "NO"] then some false
  else none

def flag (value : Option Bytes) (default : Bool) : Bool :=
  ((text? value).bind truth?).getD default

def ofDigits (digits : List Char) : Nat :=
  digits.foldl (fun number digit => number * 10 + (digit.toNat - '0'.toNat)) 0

def withoutPlus : List Char → List Char
  | '+' :: chars => chars
  | chars => chars

/-- The number that a decimal numeral denotes, below 2^32. The numeral may have a plus
    sign in front and any number of leading zeros. -/
def word? (numeral : List Char) : Option UInt32 :=
  let digits := withoutPlus numeral
  if digits.isEmpty then none
  else if digits.all Char.isDigit then
    let number := ofDigits digits
    if number < UInt32.size then some (UInt32.ofNat number) else none
  else none

/-- A positive number as a setting, white space around it aside. -/
def count (value : Option Bytes) (default : UInt32) : UInt32 :=
  (((text? value).bind fun text => word? (Text.trim text.toList)).filter (· ≠ 0)).getD default

end Setting

structure Config where
  /-- How many objects may be live at once; zero sets no limit. -/
  maxLiveHandles : UInt32 := 0
  deriving Repr, DecidableEq

def Config.ofEnvironment (environment : Environment) : Config where
  maxLiveHandles := Setting.count (environment Contract.maxLiveHandlesVariable) 0

end PayloadExchange
