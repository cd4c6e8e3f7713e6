/-! # The shortest decimal of a float

Of the decimals that read back as a float, the one with the fewest digits, and of
those the nearest to the float. A float stands for all reals that round to it; a decimal
is tested against the two ends of that interval in whole numbers, so nothing is rounded
on the way.
-/

namespace PayloadExchange

/-- A positive float, `significand * 2 ^ exponent`. -/
structure Binary where
  /-- The significand; its parity decides which way the ends of the interval round. -/
  significand : Nat
  exponent : Int
  /-- The float below is half as far away as the float above. -/
  narrowBelow : Bool
  deriving Repr, DecidableEq

/-- A decimal, `digits * 10 ^ exponent`. -/
structure Decimal where
  digits : Nat
  exponent : Int
  deriving Repr, DecidableEq

namespace Binary

/-- The magnitude of a finite float that is not zero, from its bits. -/
def ofBits (bits : UInt64) : Binary :=
  let biased : Nat := (bits.toNat / 0x10000000000000) % 0x800
  let fraction : Nat := bits.toNat % 0x10000000000000
  if biased = 0 then ⟨fraction, -1074, false⟩
  else ⟨0x10000000000000 + fraction, (biased : Int) - 1075, fraction == 0 && 1 < biased⟩

/-- A power of a base, and one where the exponent is negative. -/
def scaleOf (base : Nat) (exponent : Int) : Nat := Nat.pow base exponent.toNat

/-- The multiple of a power of ten that reads back as the float, if one does: the nearer of
    two, and of two equally near the even one. -/
def onGrid? (float : Binary) (power : Int) : Option Nat :=
  let step := scaleOf 10 power * scaleOf 2 (2 - float.exponent)
  let quarter := scaleOf 10 (-power) * scaleOf 2 (float.exponent - 2)
  let value := 4 * float.significand * quarter
  let low := (4 * float.significand - if float.narrowBelow then 1 else 2) * quarter
  let high := (4 * float.significand + 2) * quarter
  let readsBack (count : Nat) : Bool :=
    if float.significand % 2 = 0 then low ≤ count * step && count * step ≤ high
    else low < count * step && count * step < high
  let below := value / step
  match readsBack below, readsBack (below + 1) with
  | false, false => none
  | true, false => some below
  | false, true => some (below + 1)
  | true, true =>
      match compare (2 * value) ((2 * below + 1) * step) with
      | .lt => some below
      | .gt => some (below + 1)
      | .eq => some (if below % 2 = 0 then below else below + 1)

/-- Searches from the coarsest of so many powers of ten, and takes the multiple next below
    the float on the last if there is no other. -/
def searchGrid (float : Binary) : Nat → Int → Decimal
  | 0, power =>
      let step := scaleOf 10 power * scaleOf 2 (-float.exponent)
      ⟨float.significand * (scaleOf 10 (-power) * scaleOf 2 float.exponent) / step, power⟩
  | steps + 1, power =>
      match float.onGrid? power with
      | some digits => ⟨digits, power⟩
      | none => searchGrid float steps (power - 1)

/-- The shortest decimal. The first power of ten tried is above the float, and seventeen
    digits are enough for every float. -/
def shortest (float : Binary) : Decimal :=
  float.searchGrid 20 ((float.significand.log2 + float.exponent) * 30103 / 100000 + 2)

end Binary

end PayloadExchange
