import PayloadExchange.Json.SyntaxError
import PayloadExchange.Json.Value

/-! # Numerals

A numeral is read in two steps: first its digits, as they are written, then the number
they stand for. Integers that fit a 64-bit word are exact. Every other numeral becomes a
float computed from the leading digits that fit a 64-bit word and a power of ten; that
float is near the number denoted, but not always the nearest one.
-/

namespace PayloadExchange.Json

/-- The written exponent of a numeral. -/
structure Exponent where
  negative : Bool
  /-- The digits, first to last; there is at least one. -/
  digits : List Nat
  deriving Repr, DecidableEq

/-- The written parts of a number. -/
structure Numeral where
  negative : Bool
  /-- The digits before the point: a lone zero, or no zero in front. -/
  whole : List Nat
  /-- The digits after the point; there are none if there is no point. -/
  fraction : List Nat
  /-- The exponent, if one is written. -/
  exponent : Option Exponent
  deriving Repr, DecidableEq

namespace Numeral

/-- The digits at the front of a text, as numbers, and the rest. -/
def digits (chars : List Char) : List Nat × List Char :=
  ((chars.takeWhile Char.isDigit).map fun c => c.toNat - '0'.toNat, chars.dropWhile Char.isDigit)

def scanWhole : List Char → Except Stop (List Nat × List Char)
  | [] => .error (.before .endInValue [])
  | '0' :: rest =>
      if (rest.head?.map Char.isDigit).getD false then .error (.here .invalidNumber rest)
      else .ok ([0], rest)
  | c :: rest =>
      if c.isDigit then .ok (digits (c :: rest)) else .error (.here .invalidNumber (c :: rest))

/-- Reads digits of which there must be at least one. -/
def scanDigits (chars : List Char) : Except Stop (List Nat × List Char) :=
  match digits chars with
  | ([], rest) => .error (.here (if rest.isEmpty then .endInValue else .invalidNumber) rest)
  | found => .ok found

def scanFraction : List Char → Except Stop (List Nat × List Char)
  | '.' :: rest => scanDigits rest
  | chars => .ok ([], chars)

def exponentSign : List Char → Bool × List Char
  | '+' :: rest => (false, rest)
  | '-' :: rest => (true, rest)
  | chars => (false, chars)

def scanExponent : List Char → Except Stop (Option Exponent × List Char)
  | c :: rest =>
      if c = 'e' ∨ c = 'E' then do
        let (negative, rest) := exponentSign rest
        let (digits, rest) ← scanDigits rest
        return (some ⟨negative, digits⟩, rest)
      else .ok (none, c :: rest)
  | [] => .ok (none, [])

def scanUnsigned (negative : Bool) (chars : List Char) : Except Stop (Numeral × List Char) := do
  let (whole, rest) ← scanWhole chars
  let (fraction, rest) ← scanFraction rest
  let (exponent, rest) ← scanExponent rest
  return (⟨negative, whole, fraction, exponent⟩, rest)

def scan : List Char → Except Stop (Numeral × List Char)
  | '-' :: rest => scanUnsigned true rest
  | chars => scanUnsigned false chars

theorem digits_length (chars : List Char) : (digits chars).2.length ≤ chars.length :=
  (List.dropWhile_sublist Char.isDigit).length_le

theorem scanWhole_length {chars rest : List Char} {whole : List Nat}
    (h : scanWhole chars = .ok (whole, rest)) : rest.length < chars.length := by
  unfold scanWhole at h
  split at h
  · simp at h
  · split at h
    · simp at h
    · simp only [Except.ok.injEq, Prod.mk.injEq] at h
      obtain ⟨_, rfl⟩ := h
      simp
  · next c tail _ =>
      split at h
      · next isDigit =>
          simp only [digits, Except.ok.injEq, Prod.mk.injEq, List.dropWhile_cons, isDigit,
            if_true] at h
          obtain ⟨_, rfl⟩ := h
          have := (List.dropWhile_sublist (l := tail) Char.isDigit).length_le
          simp only [List.length_cons]
          omega
      · simp at h

theorem scanDigits_length {chars rest : List Char} {found : List Nat}
    (h : scanDigits chars = .ok (found, rest)) : rest.length ≤ chars.length := by
  have short := digits_length chars
  unfold scanDigits at h
  split at h
  · simp at h
  · simp only [Except.ok.injEq] at h
    rw [h] at short
    exact short

theorem scanFraction_length {chars rest : List Char} {fraction : List Nat}
    (h : scanFraction chars = .ok (fraction, rest)) : rest.length ≤ chars.length := by
  unfold scanFraction at h
  split at h
  · have := scanDigits_length h
    simp only [List.length_cons]
    omega
  · simp only [Except.ok.injEq, Prod.mk.injEq] at h
    obtain ⟨_, rfl⟩ := h
    exact Nat.le_refl _

theorem exponentSign_length (chars : List Char) :
    (exponentSign chars).2.length ≤ chars.length := by
  unfold exponentSign
  split <;> simp

theorem scanExponent_length {chars rest : List Char} {exponent : Option Exponent}
    (h : scanExponent chars = .ok (exponent, rest)) : rest.length ≤ chars.length := by
  cases chars with
  | nil => simp_all [scanExponent]
  | cons c tail =>
      simp only [scanExponent] at h
      split at h
      · have signed := exponentSign_length tail
        cases found : scanDigits (exponentSign tail).2 with
        | error stop => simp [found, bind, Except.bind] at h
        | ok scanned =>
            have := scanDigits_length found
            simp only [found, bind, Except.bind, pure, Except.pure, Except.ok.injEq,
              Prod.mk.injEq] at h
            obtain ⟨_, rfl⟩ := h
            simp only [List.length_cons]
            omega
      · simp only [Except.ok.injEq, Prod.mk.injEq] at h
        obtain ⟨_, rfl⟩ := h
        exact Nat.le_refl _

theorem scanUnsigned_length {negative : Bool} {chars rest : List Char} {numeral : Numeral}
    (h : scanUnsigned negative chars = .ok (numeral, rest)) : rest.length < chars.length := by
  unfold scanUnsigned at h
  cases whole : scanWhole chars with
  | error stop => simp [whole, bind, Except.bind] at h
  | ok first =>
      have := scanWhole_length whole
      simp only [whole, bind, Except.bind] at h
      cases fraction : scanFraction first.2 with
      | error stop => simp [fraction] at h
      | ok second =>
          have := scanFraction_length fraction
          simp only [fraction] at h
          cases exponent : scanExponent second.2 with
          | error stop => simp [exponent] at h
          | ok third =>
              have := scanExponent_length exponent
              simp only [exponent, pure, Except.pure, Except.ok.injEq, Prod.mk.injEq] at h
              obtain ⟨_, rfl⟩ := h
              omega

theorem scan_length {chars rest : List Char} {numeral : Numeral}
    (h : scan chars = .ok (numeral, rest)) : rest.length < chars.length := by
  unfold scan at h
  split at h
  · have := scanUnsigned_length h
    simp only [List.length_cons]
    omega
  · exact scanUnsigned_length h

/-- Appends digits to a number while the result stays at or below a limit; the digits from
    the first that does not fit are left over. -/
def appendWhile (limit : Nat) : Nat → List Nat → Nat × List Nat
  | number, [] => (number, [])
  | number, digit :: rest =>
      let longer := number * 10 + digit
      if longer ≤ limit then appendWhile limit longer rest else (number, digit :: rest)

def wordLimit : Nat := 0xffffffffffffffff

/-- The largest written exponent that is taken as a number. -/
def exponentLimit : Nat := 0x7fffffff

def powerOfTen (exponent : Nat) : Float := Float.ofScientific 1 false exponent

/-- A float times a power of ten, in one step for exponents up to 308. Smaller numbers are
    reached by repeated division, and a result that is too large is none. -/
def scale (number : Float) (exponent : Int) : Option Float :=
  if 308 < exponent then if number == 0 then some number else none
  else if 0 ≤ exponent then
    let scaled := number * powerOfTen exponent.toNat
    if scaled.isInf then none else some scaled
  else if -308 ≤ exponent then some (number / powerOfTen (-exponent).toNat)
  else if number == 0 then some number
  else scale (number / powerOfTen 308) (exponent + 308)
termination_by (-exponent).toNat

/-- The digits that a float is computed from, and the power of ten they are scaled by. -/
def leading (numeral : Numeral) : Nat × Int :=
  let (number, dropped) := appendWhile wordLimit 0 numeral.whole
  let (number, unused) := appendWhile wordLimit number numeral.fraction
  (number, dropped.length - (numeral.fraction.length - unused.length : Nat))

def signed (numeral : Numeral) (number : Float) : Number :=
  .float (if numeral.negative then -number else number)

/-- The float that a numeral stands for, or the number of bytes of the numeral that are
    still ahead where it proves too large. -/
def toFloat (numeral : Numeral) : Except Nat Number :=
  let (number, shift) := numeral.leading
  let scaled (exponent : Int) : Except Nat Number :=
    match scale (UInt64.ofNat number).toFloat exponent with
    | some float => .ok (numeral.signed float)
    | none => .error 0
  match numeral.exponent with
  | none => scaled shift
  | some exponent =>
      match appendWhile exponentLimit 0 exponent.digits with
      | (written, []) => scaled (if exponent.negative then shift - written else shift + written)
      | (_, _ :: unread) =>
          if number ≠ 0 ∧ exponent.negative = false then .error unread.length
          else .ok (numeral.signed 0)

/-- The number that a numeral stands for, or the number of bytes of the numeral that are
    still ahead where it proves too large. -/
def toNumber (numeral : Numeral) : Except Nat Number :=
  match numeral.fraction, numeral.exponent, appendWhile wordLimit 0 numeral.whole with
  | [], none, (number, []) =>
      if numeral.negative = false then .ok (.integer number)
      else if 0 < number ∧ number ≤ 0x8000000000000000 then .ok (.integer (-number))
      else .ok (.float (-(UInt64.ofNat number).toFloat))
  | _, _, _ => numeral.toFloat

end Numeral

def scanNumber (chars : List Char) : Except Stop (Number × List Char) := do
  let (numeral, rest) ← Numeral.scan chars
  match numeral.toNumber with
  | .ok number => return (number, rest)
  | .error ahead => .error ⟨.numberOutOfRange, Text.byteCount rest + ahead⟩

theorem scanNumber_length {chars rest : List Char} {number : Number}
    (h : scanNumber chars = .ok (number, rest)) : rest.length < chars.length := by
  unfold scanNumber at h
  cases scanned : Numeral.scan chars with
  | error stop => simp [scanned, bind, Except.bind] at h
  | ok found =>
      simp only [scanned, bind, Except.bind] at h
      split at h
      · simp only [pure, Except.pure, Except.ok.injEq, Prod.mk.injEq] at h
        obtain ⟨_, rfl⟩ := h
        exact Numeral.scan_length scanned
      · simp at h

end PayloadExchange.Json
