import PayloadExchange.Json.SyntaxError

/-! # String literals

The written form of a text in a JSON document: how it is written, and how the characters
up to the closing quote are read. Writing escapes as little as it may; reading takes
every escape there is.
-/

namespace PayloadExchange.Json.StringLiteral

def hexDigit (n : Nat) : Char :=
  if n < 10 then Char.ofNat ('0'.toNat + n) else Char.ofNat ('a'.toNat + (n - 10))

/-- The written form of one character. Quotes, backslashes and controls are escaped, by a
    letter where there is one. -/
def escape (c : Char) : List Char :=
  if c = '"' then ['\\', '"']
  else if c = '\\' then ['\\', '\\']
  else if c = '\x08' then ['\\', 'b']
  else if c = '\x0c' then ['\\', 'f']
  else if c = '\n' then ['\\', 'n']
  else if c = '\r' then ['\\', 'r']
  else if c = '\t' then ['\\', 't']
  else if c.toNat < 0x20 then
    ['\\', 'u', '0', '0', hexDigit (c.toNat / 16), hexDigit (c.toNat % 16)]
  else [c]

def print (text : String) : List Char := '"' :: text.toList.flatMap escape ++ ['"']

def hexValue? (c : Char) : Option Nat :=
  if '0' ≤ c ∧ c ≤ '9' then some (c.toNat - '0'.toNat)
  else if 'a' ≤ c ∧ c ≤ 'f' then some (c.toNat - 'a'.toNat + 10)
  else if 'A' ≤ c ∧ c ≤ 'F' then some (c.toNat - 'A'.toNat + 10)
  else none

def unit? (a b c d : Char) : Option Nat := do
  return (((← hexValue? a) * 16 + (← hexValue? b)) * 16 + (← hexValue? c)) * 16 + (← hexValue? d)

/-- Why four hexadecimal digits cannot be read. Four bytes count as read, whatever they are;
    with fewer left the text has ended. -/
def unitStop (chars : List Char) : Stop :=
  .inside (if Text.byteCount chars < 4 then .endInString else .invalidEscape) 4 chars

def scanUnit (chars : List Char) : Except Stop (Nat × List Char) :=
  match chars with
  | a :: b :: c :: d :: rest =>
      match unit? a b c d with
      | some unit => .ok (unit, rest)
      | none => .error (unitStop chars)
  | _ => .error (unitStop chars)

/-- The first of the two units of a character above U+FFFF. -/
def isLeading (unit : Nat) : Bool := 0xd800 ≤ unit && unit ≤ 0xdbff

/-- The second of the two units of a character above U+FFFF. -/
def isTrailing (unit : Nat) : Bool := 0xdc00 ≤ unit && unit ≤ 0xdfff

/-- The character that two units make together. -/
def joined (leading trailing : Nat) : Char :=
  Char.ofNat (0x10000 + (leading - 0xd800) * 0x400 + (trailing - 0xdc00))

/-- Reads the mark of the second numeric escape of a pair. -/
def scanMark (expected : Char) : List Char → Except Stop (List Char)
  | [] => .error (.before .endInString [])
  | c :: rest => if c = expected then .ok rest else .error (.here .unfinishedPair (c :: rest))

/-- Reads a numeric escape after its mark. A leading unit needs a trailing one in an escape
    right behind it. -/
def scanNumeric (chars : List Char) : Except Stop (Char × List Char) := do
  let (unit, rest) ← scanUnit chars
  if isTrailing unit then .error (.before .loneSurrogate rest)
  else if isLeading unit then
    let rest ← scanMark '\\' rest
    let rest ← scanMark 'u' rest
    let (second, rest) ← scanUnit rest
    if isTrailing second then .ok (joined unit second, rest)
    else .error (.before .loneSurrogate rest)
  else .ok (Char.ofNat unit, rest)

/-- The character that a letter after a backslash stands for. -/
def named? : Char → Option Char
  | '"' => some '"'
  | '\\' => some '\\'
  | '/' => some '/'
  | 'b' => some '\x08'
  | 'f' => some '\x0c'
  | 'n' => some '\n'
  | 'r' => some '\r'
  | 't' => some '\t'
  | _ => none

def scanEscape : List Char → Except Stop (Char × List Char)
  | [] => .error (.before .endInString [])
  | c :: rest =>
      if c = 'u' then scanNumeric rest
      else match named? c with
        | some named => .ok (named, rest)
        | none => .error (.here .invalidEscape (c :: rest))

theorem scanUnit_length {chars rest : List Char} {unit : Nat}
    (h : scanUnit chars = .ok (unit, rest)) : rest.length < chars.length := by
  unfold scanUnit at h
  split at h
  · split at h
    · simp only [Except.ok.injEq, Prod.mk.injEq] at h
      obtain ⟨_, rfl⟩ := h
      simp only [List.length_cons]
      omega
    · simp at h
  · simp at h

theorem scanMark_length {expected : Char} {chars rest : List Char}
    (h : scanMark expected chars = .ok rest) : rest.length < chars.length := by
  cases chars with
  | nil => simp [scanMark] at h
  | cons c tail =>
      simp only [scanMark] at h
      split at h
      · simp only [Except.ok.injEq] at h
        subst h
        simp
      · simp at h

theorem scanNumeric_length {chars rest : List Char} {c : Char}
    (h : scanNumeric chars = .ok (c, rest)) : rest.length < chars.length := by
  unfold scanNumeric at h
  cases first : scanUnit chars with
  | error stop => simp [first, bind, Except.bind] at h
  | ok found =>
      obtain ⟨unit, afterUnit⟩ := found
      have shorter := scanUnit_length first
      simp only [first, bind, Except.bind] at h
      split at h
      · simp at h
      · split at h
        · cases mark : scanMark '\\' afterUnit with
          | error stop => simp [mark] at h
          | ok afterMark =>
              have shorterMark := scanMark_length mark
              simp only [mark] at h
              cases letter : scanMark 'u' afterMark with
              | error stop => simp [letter] at h
              | ok afterLetter =>
                  have shorterLetter := scanMark_length letter
                  simp only [letter] at h
                  cases second : scanUnit afterLetter with
                  | error stop => simp [second] at h
                  | ok found =>
                      obtain ⟨trailing, last⟩ := found
                      have shorterLast := scanUnit_length second
                      simp only [second] at h
                      split at h
                      · simp only [Except.ok.injEq, Prod.mk.injEq] at h
                        obtain ⟨_, rfl⟩ := h
                        omega
                      · simp at h
        · simp only [Except.ok.injEq, Prod.mk.injEq] at h
          obtain ⟨_, rfl⟩ := h
          exact shorter

theorem scanEscape_length {chars rest : List Char} {c : Char}
    (h : scanEscape chars = .ok (c, rest)) : rest.length < chars.length := by
  cases chars with
  | nil => simp [scanEscape] at h
  | cons mark tail =>
      simp only [scanEscape] at h
      split at h
      · have := scanNumeric_length h
        simp only [List.length_cons]
        omega
      · split at h
        · simp only [Except.ok.injEq, Prod.mk.injEq] at h
          obtain ⟨_, rfl⟩ := h
          simp
        · simp at h

/-- Reads the characters up to the closing quote, and the quote; `done` holds those read
    so far, last first. -/
def scan (done : List Char) (chars : List Char) : Except Stop (String × List Char) :=
  match chars with
  | [] => .error (.before .endInString [])
  | c :: rest =>
      if c = '"' then .ok (String.ofList done.reverse, rest)
      else if c = '\\' then
        match h : scanEscape rest with
        | .ok (escaped, after) =>
            have := scanEscape_length h
            scan (escaped :: done) after
        | .error stop => .error stop
      else if c.toNat < 0x20 then .error (.here .controlCharacter (c :: rest))
      else scan (c :: done) rest
termination_by chars.length

theorem scan_cons (done : List Char) (c : Char) (rest : List Char) :
    scan done (c :: rest) =
      if c = '"' then .ok (String.ofList done.reverse, rest)
      else if c = '\\' then
        match scanEscape rest with
        | .ok (escaped, after) => scan (escaped :: done) after
        | .error stop => .error stop
      else if c.toNat < 0x20 then .error (.here .controlCharacter (c :: rest))
      else scan (c :: done) rest := by
  rw [scan]
  split
  · rfl
  · split
    · split <;> simp_all
    · rfl

theorem scan_length {done chars rest : List Char} {text : String}
    (h : scan done chars = .ok (text, rest)) : rest.length < chars.length := by
  fun_induction scan done chars with
  | case1 => simp at h
  | case2 done tail =>
      simp only [Except.ok.injEq, Prod.mk.injEq] at h
      obtain ⟨_, rfl⟩ := h
      simp
  | case3 done tail escaped after found shorter _ ih =>
      have := ih h
      simp only [List.length_cons]
      omega
  | case4 => simp at h
  | case5 => simp at h
  | case6 done c tail _ _ _ ih =>
      have := ih h
      simp only [List.length_cons]
      omega

end PayloadExchange.Json.StringLiteral
