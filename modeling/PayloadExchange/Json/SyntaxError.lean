import PayloadExchange.Text.Utf8

/-! # Syntax errors

Why a text is not a JSON document, and where reading it stopped. A position counts
lines from one and, on its line, the bytes read.
-/

namespace PayloadExchange.Json

/-- Why reading stopped. -/
inductive SyntaxCause where
  | endInValue
  | endInList
  | endInObject
  | endInString
  | expectedValue
  /-- One of the three names is misspelt. -/
  | expectedName
  | expectedCommaOrBracket
  | expectedCommaOrBrace
  | expectedColon
  | trailingComma
  | keyNotString
  | trailingCharacters
  | recursionLimit
  | invalidNumber
  | numberOutOfRange
  | controlCharacter
  /-- A backslash is followed by something that makes no escape. -/
  | invalidEscape
  /-- A surrogate escape is not half of a pair. -/
  | loneSurrogate
  /-- A leading surrogate escape is not followed by another escape. -/
  | unfinishedPair
  deriving Repr, DecidableEq

def SyntaxCause.message : SyntaxCause → String
  | .endInValue => "EOF while parsing a value"
  | .endInList => "EOF while parsing a list"
  | .endInObject => "EOF while parsing an object"
  | .endInString => "EOF while parsing a string"
  | .expectedValue => "expected value"
  | .expectedName => "expected ident"
  | .expectedCommaOrBracket => "expected `,` or `]`"
  | .expectedCommaOrBrace => "expected `,` or `\x7d`"
  | .expectedColon => "expected `:`"
  | .trailingComma => "trailing comma"
  | .keyNotString => "key must be a string"
  | .trailingCharacters => "trailing characters"
  | .recursionLimit => "recursion limit exceeded"
  | .invalidNumber => "invalid number"
  | .numberOutOfRange => "number out of range"
  | .controlCharacter => "control character (\\u0000-\\u001F) found while parsing a string"
  | .invalidEscape => "invalid escape"
  | .loneSurrogate => "lone leading surrogate in hex escape"
  | .unfinishedPair => "unexpected end of hex escape"

structure Position where
  /-- The line, counted from one. -/
  line : Nat
  /-- The number of bytes read on that line. -/
  column : Nat
  deriving Repr, DecidableEq

/-- The place reached once these bytes are read. -/
def Position.after (read : Bytes) : Position where
  line := 1 + read.count 10
  column := (read.reverse.takeWhile (· ≠ 10)).length

structure SyntaxError where
  cause : SyntaxCause
  position : Position
  deriving Repr, DecidableEq

def SyntaxError.message (error : SyntaxError) : String :=
  error.cause.message ++ " at line " ++ toString error.position.line
    ++ " column " ++ toString error.position.column

/-- Why and where a reader stopped, the place given by the number of bytes still ahead. -/
structure Stop where
  cause : SyntaxCause
  /-- The bytes of the text after the place. -/
  ahead : Nat
  deriving Repr, DecidableEq

namespace Stop

/-- A stop with `unread` still ahead. -/
def before (cause : SyntaxCause) (unread : List Char) : Stop := ⟨cause, Text.byteCount unread⟩

/-- A stop that counts as read the first `count` bytes of what is ahead, or all of it. -/
def inside (cause : SyntaxCause) (count : Nat) (unread : List Char) : Stop :=
  ⟨cause, Text.byteCount unread - count⟩

/-- A stop at the first byte of what is ahead, which counts as read. -/
def here (cause : SyntaxCause) (unread : List Char) : Stop := inside cause 1 unread

def inText (stop : Stop) (text : String) : SyntaxError :=
  let bytes := Text.utf8 text
  ⟨stop.cause, .after (bytes.take (bytes.length - stop.ahead))⟩

end Stop

end PayloadExchange.Json
