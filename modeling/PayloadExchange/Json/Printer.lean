import PayloadExchange.Decimal
import PayloadExchange.Json.StringLiteral
import PayloadExchange.Json.Value

/-! # Writing JSON documents

The compact form: no white space, members in the order in which they are kept, floats by
their shortest decimals.
-/

namespace PayloadExchange.Json

def decimalDigits (n : Nat) : List Char := Nat.toDigits 10 n

/-- The digits of a decimal with the point, or the power of ten, that belongs to them. The
    leading digit has a power from -5 to 15 in plain notation, where at least one digit
    follows the point; otherwise the power is written out with its sign. -/
def layout (decimal : Decimal) : List Char :=
  let digits := decimalDigits decimal.digits
  let power := digits.length - 1 + decimal.exponent
  if power < -5 ∨ 15 < power then
    let tail := digits.drop 1
    digits.take 1 ++ (if tail.isEmpty then [] else '.' :: tail) ++ ['e']
      ++ (if power < 0 then ['-'] else ['+']) ++ decimalDigits power.natAbs
  else if 0 ≤ decimal.exponent then
    digits ++ List.replicate decimal.exponent.toNat '0' ++ ['.', '0']
  else if 0 ≤ power then
    digits.take (power.toNat + 1) ++ '.' :: digits.drop (power.toNat + 1)
  else ['0', '.'] ++ List.replicate (-power - 1).toNat '0' ++ digits

def printFloat (float : Float) : List Char :=
  let bits := float.toBits
  let magnitude := bits % 0x8000000000000000
  (if bits = magnitude then [] else ['-'])
    ++ if magnitude = 0 then ['0', '.', '0'] else layout (Binary.ofBits magnitude).shortest

def printInteger (n : Int) : List Char :=
  (if n < 0 then ['-'] else []) ++ decimalDigits n.natAbs

def Number.print : Number → List Char
  | integer value => printInteger value
  | float value => printFloat value

namespace Value

mutual

def print : Value → List Char
  | null => ['n', 'u', 'l', 'l']
  | bool true => ['t', 'r', 'u', 'e']
  | bool false => ['f', 'a', 'l', 's', 'e']
  | number value => value.print
  | string text => StringLiteral.print text
  | array [] => ['[', ']']
  | array (value :: rest) => '[' :: print value ++ printElements rest
  | object [] => ['{', '}']
  | object (member :: rest) =>
      '{' :: StringLiteral.print member.1 ++ ':' :: print member.2 ++ printMembers rest

/-- The remaining elements of a list, each after a comma, and the bracket. -/
def printElements : List Value → List Char
  | [] => [']']
  | value :: rest => ',' :: print value ++ printElements rest

/-- The remaining members of an object, each after a comma, and the brace. -/
def printMembers : List (String × Value) → List Char
  | [] => ['}']
  | member :: rest =>
      ',' :: StringLiteral.print member.1 ++ ':' :: print member.2 ++ printMembers rest

end

def text (value : Value) : String := String.ofList value.print

end Value

end PayloadExchange.Json
