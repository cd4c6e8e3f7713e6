/-! # Steps that may fail

A sequence delivers what its second part makes of what the first delivers, and where its second
part cannot fail it has the faults of the first.
-/

namespace PayloadExchange

def faultOf {ε α : Type} : Except ε α → Option ε
  | .ok _ => none
  | .error fault => some fault

section

variable {ε α β : Type} {first : Except ε α} {next : α → Except ε β}

theorem ok_of_bind {value : β} (done : first >>= next = .ok value) :
    ∃ found, first = .ok found ∧ next found = .ok value := by
  cases first with
  | error fault => cases done
  | ok found => exact ⟨found, rfl, done⟩

theorem discard_eq_error {fault : ε} :
    discard first = .error fault ↔ first = .error fault := by
  cases first with
  | ok value => exact ⟨nofun, nofun⟩
  | error found =>
      constructor
      · rintro ⟨⟩
        rfl
      · rintro ⟨⟩
        rfl

theorem faultOf_eq_some {fault : ε} : faultOf first = some fault ↔ first = .error fault := by
  cases first with
  | ok value => simp [faultOf]
  | error found => simp [faultOf]

theorem faultOf_bind (fine : ∀ value, faultOf (next value) = none) :
    faultOf (first >>= next) = faultOf first := by
  cases first with
  | ok value => exact fine value
  | error fault => rfl

end

end PayloadExchange
