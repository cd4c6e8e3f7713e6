/-! # Signed indices

A signed 64-bit index selects one of so many places: from zero on it counts from the
front, and below zero from the end, where -1 is the last. Main statement: while the
places can be counted in a machine word, no index is misread, whatever its size.
-/

namespace PayloadExchange

/-- The sum of two machine words, unless it leaves their range. -/
def checkedSum (a b : Int64) : Option Int64 :=
  let sum := a.toInt + b.toInt
  if Int64.minValue.toInt ≤ sum ∧ sum ≤ Int64.maxValue.toInt then some (Int64.ofInt sum) else none

/-- The place among so many that a signed index selects. -/
def place? (count : Nat) (index : Int64) : Option (Fin count) :=
  let fromFront := if index < 0 then checkedSum (Int64.ofNat count) index else some index
  fromFront.bind fun place =>
    if h : 0 ≤ place ∧ place.toNatClampNeg < count then some ⟨place.toNatClampNeg, h.2⟩
    else none

theorem checkedSum_eq_some_iff {a b c : Int64} :
    checkedSum a b = some c ↔ c.toInt = a.toInt + b.toInt := by
  unfold checkedSum
  simp only
  split
  · next inRange =>
    rw [Option.some.injEq]
    constructor
    · rintro rfl
      exact Int64.toInt_ofInt_of_le inRange.1 (Int.lt_add_one_of_le inRange.2)
    · intro h
      rw [← h, Int64.ofInt_toInt]
  · next outside =>
    simp only [reduceCtorEq, false_iff]
    intro h
    apply outside
    rw [← h]
    exact ⟨Int64.minValue_le_toInt c, Int64.toInt_le c⟩

/-- While the places are fewer than 2^63, an index selects the place it should, and nothing
    if there is no such place. -/
theorem place?_eq_some_iff {count : Nat} {index : Int64} {place : Fin count}
    (small : count < 9223372036854775808) :
    place? count index = some place ↔
      (place : Int) = if index.toInt < 0 then count + index.toInt else index.toInt := by
  have fits : (Int64.ofNat count).toInt = count := Int64.toInt_ofNat_of_lt small
  have bound := place.isLt
  have selects {word : Int64} :
      (if h : 0 ≤ word ∧ word.toNatClampNeg < count then some (⟨_, h.2⟩ : Fin count) else none)
        = some place ↔ (place : Int) = word.toInt := by
    have clamp := Int64.toNat_toInt word
    have sign : 0 ≤ word ↔ 0 ≤ word.toInt := by simp [Int64.le_iff_toInt_le]
    split
    · next inside =>
      have := sign.1 inside.1
      simp only [Option.some.injEq, Fin.ext_iff]
      omega
    · next outside =>
      rw [sign] at outside
      simp only [reduceCtorEq, false_iff]
      omega
  unfold place?
  by_cases negative : index < 0
  · have below : index.toInt < 0 := by simpa [Int64.lt_iff_toInt_lt] using negative
    simp only [negative, below, if_true]
    cases sum : checkedSum (Int64.ofNat count) index with
    | none =>
        simp only [Option.bind_none, reduceCtorEq, false_iff]
        intro h
        have : checkedSum (Int64.ofNat count) index = some (Int64.ofNat place) :=
          checkedSum_eq_some_iff.2 (by
            rw [Int64.toInt_ofNat_of_lt (by omega), fits]
            exact h)
        simp [sum] at this
    | some word =>
        rw [Option.bind_some, selects, checkedSum_eq_some_iff.1 sum, fits]
  · have : ¬ index.toInt < 0 := by simpa [Int64.lt_iff_toInt_lt] using negative
    simp only [negative, this, if_false, Option.bind_some]
    exact selects

end PayloadExchange
