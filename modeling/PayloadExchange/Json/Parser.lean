import PayloadExchange.Json.Numeral
import PayloadExchange.Json.StringLiteral

/-! # Reading JSON documents

A reader takes a value from the front of a text. Lists and objects may be nested to a
fixed depth; the room left for further levels is what the recursion runs on, and within
one level a loop ends because each element leaves a shorter text.
-/

namespace PayloadExchange.Json

def isSpace (c : Char) : Bool := c = ' ' || c = '\t' || c = '\n' || c = '\r'

def skipSpace (chars : List Char) : List Char := chars.dropWhile isSpace

theorem skipSpace_length (chars : List Char) : (skipSpace chars).length ≤ chars.length :=
  (List.dropWhile_sublist isSpace).length_le

/-- Something read from the front of a text, and a rest with fewer characters than a limit. -/
@[ext]
structure Parsed (α : Type) (limit : Nat) where
  value : α
  rest : List Char
  shorter : rest.length < limit

def Parsed.within {α : Type} {limit larger : Nat} (parsed : Parsed α limit) (h : limit ≤ larger) :
    Parsed α larger :=
  ⟨parsed.value, parsed.rest, Nat.lt_of_lt_of_le parsed.shorter h⟩

def Parsed.map {α β : Type} {limit : Nat} (f : α → β) (parsed : Parsed α limit) : Parsed β limit :=
  ⟨f parsed.value, parsed.rest, parsed.shorter⟩

abbrev Reader := (chars : List Char) → Except Stop (Parsed Value chars.length)

def scanName : List Char → List Char → Except Stop (List Char)
  | [], chars => .ok chars
  | _ :: _, [] => .error (.before .endInValue [])
  | letter :: letters, c :: rest =>
      if c = letter then scanName letters rest else .error (.here .expectedName (c :: rest))

theorem scanName_length {letters chars rest : List Char}
    (h : scanName letters chars = .ok rest) : rest.length ≤ chars.length := by
  fun_induction scanName letters chars with
  | case1 => simp_all
  | case2 => simp at h
  | case3 letters tail c ih =>
      have := ih h
      simp only [List.length_cons]
      omega
  | case4 => simp at h

/-- Reads the elements of a list up to its bracket; `done` holds those read so far, last
    first. -/
def readElements (reader : Reader) (limit : Nat) (done : List Value) (chars : List Char)
    (h : chars.length ≤ limit) : Except Stop (Parsed (List Value) limit) :=
  match reader chars with
  | .error stop => .error stop
  | .ok element =>
      match next : skipSpace element.rest with
      | [] => .error (.before .endInList [])
      | c :: rest =>
          have short : rest.length < chars.length := by
            have := skipSpace_length element.rest
            have := element.shorter
            simp_all only [List.length_cons]
            omega
          if c = ',' then
            match skipSpace rest with
            | ']' :: _ => .error (.here .trailingComma (skipSpace rest))
            | _ => readElements reader limit (element.value :: done) rest (by omega)
          else if c = ']' then .ok ⟨(element.value :: done).reverse, rest, by omega⟩
          else .error (.here .expectedCommaOrBracket (c :: rest))
termination_by chars.length

def readMember (reader : Reader) (chars : List Char) :
    Except Stop (Parsed (String × Value) chars.length) :=
  match start : skipSpace chars with
  | '"' :: literal =>
      match key : StringLiteral.scan [] literal with
      | .error stop => .error stop
      | .ok (name, afterKey) =>
          match colon : skipSpace afterKey with
          | [] => .error (.before .endInObject [])
          | c :: afterColon =>
              if c = ':' then
                match reader afterColon with
                | .error stop => .error stop
                | .ok value =>
                    .ok ((value.map (name, ·)).within (by
                      have := skipSpace_length chars
                      have := skipSpace_length afterKey
                      have := StringLiteral.scan_length key
                      simp_all only [List.length_cons]
                      omega))
              else .error (.here .expectedColon (c :: afterColon))
  | unread => .error (.here .keyNotString unread)

/-- Reads the members of an object up to its brace; `done` holds those read so far, last
    first. -/
def readMembers (reader : Reader) (limit : Nat) (done : List (String × Value)) (chars : List Char)
    (h : chars.length ≤ limit) : Except Stop (Parsed (List (String × Value)) limit) :=
  match readMember reader chars with
  | .error stop => .error stop
  | .ok found =>
      match next : skipSpace found.rest with
      | [] => .error (.before .endInObject [])
      | c :: rest =>
          have short : rest.length < chars.length := by
            have := skipSpace_length found.rest
            have := found.shorter
            simp_all only [List.length_cons]
            omega
          if c = ',' then
            match skipSpace rest with
            | [] => .error (.before .endInValue [])
            | '}' :: _ => .error (.here .trailingComma (skipSpace rest))
            | _ => readMembers reader limit (found.value :: done) rest (by omega)
          else if c = '}' then .ok ⟨(found.value :: done).reverse, rest, by omega⟩
          else .error (.here .expectedCommaOrBrace (c :: rest))
termination_by chars.length

def readArray (reader : Reader) (chars : List Char) : Except Stop (Parsed Value chars.length) :=
  match start : skipSpace chars with
  | [] => .error (.before .endInList [])
  | ']' :: rest =>
      .ok ⟨.array [], rest, by
        have := skipSpace_length chars
        simp_all only [List.length_cons]
        omega⟩
  | _ => (readElements reader chars.length [] chars (Nat.le_refl _)).map (·.map .array)

def readObject (reader : Reader) (chars : List Char) : Except Stop (Parsed Value chars.length) :=
  match start : skipSpace chars with
  | [] => .error (.before .endInObject [])
  | '}' :: rest =>
      .ok ⟨.object [], rest, by
        have := skipSpace_length chars
        simp_all only [List.length_cons]
        omega⟩
  | _ =>
      (readMembers reader chars.length [] chars (Nat.le_refl _)).map
        (·.map fun members => .object (collect members))

/-- Something read behind the first character of a text, once the white space is skipped. -/
def Parsed.behind {α : Type} {c : Char} {chars rest : List Char}
    (parsed : Parsed α rest.length) (start : skipSpace chars = c :: rest) :
    Parsed α chars.length :=
  parsed.within (by
    have := skipSpace_length chars
    rw [start, List.length_cons] at this
    omega)

/-- Reads the rest of a name and gives the value it stands for. -/
def readName (letters : List Char) (value : Value) (c : Char) (chars rest : List Char)
    (start : skipSpace chars = c :: rest) : Except Stop (Parsed Value chars.length) :=
  match found : scanName letters rest with
  | .error stop => .error stop
  | .ok after =>
      .ok ⟨value, after, by
        have := skipSpace_length chars
        have := scanName_length found
        rw [start, List.length_cons] at *
        omega⟩

/-- Reads a value, with room for so many levels of lists and objects. -/
def readValue (room : Nat) : Reader := fun chars =>
  match start : skipSpace chars with
  | [] => .error (.before .endInValue [])
  | c :: rest =>
      if c = '"' then
        match found : StringLiteral.scan [] rest with
        | .error stop => .error stop
        | .ok (text, after) =>
            .ok (Parsed.behind ⟨.string text, after, StringLiteral.scan_length found⟩ start)
      else if c = '[' then
        match room with
        | 0 => .error (.here .recursionLimit (c :: rest))
        | room + 1 => (readArray (readValue room) rest).map (·.behind start)
      else if c = '{' then
        match room with
        | 0 => .error (.here .recursionLimit (c :: rest))
        | room + 1 => (readObject (readValue room) rest).map (·.behind start)
      else if c = 'n' then readName ['u', 'l', 'l'] .null c chars rest start
      else if c = 't' then readName ['r', 'u', 'e'] (.bool true) c chars rest start
      else if c = 'f' then readName ['a', 'l', 's', 'e'] (.bool false) c chars rest start
      else if c = '-' || c.isDigit then
        match found : scanNumber (c :: rest) with
        | .error stop => .error stop
        | .ok (number, after) =>
            .ok ⟨.number number, after, by
              have := skipSpace_length chars
              have := scanNumber_length found
              rw [start] at *
              omega⟩
      else .error (.here .expectedValue (c :: rest))

/-- How deeply lists and objects may be nested in a document. -/
def maxDepth : Nat := 127

/-- Reads a whole document: one value, with nothing but white space around it. -/
def readDocument (chars : List Char) : Except Stop Value :=
  match readValue maxDepth chars with
  | .error stop => .error stop
  | .ok parsed =>
      match skipSpace parsed.rest with
      | [] => .ok parsed.value
      | unread => .error (.here .trailingCharacters unread)

/-- The value that a text is the JSON form of. -/
def parse (text : String) : Except SyntaxError Value :=
  (readDocument text.toList).mapError (·.inText text)

end PayloadExchange.Json
