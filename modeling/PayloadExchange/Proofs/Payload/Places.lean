import PayloadExchange.Payload

/-! # Places among arguments

A signed index stands for one of so many places. Where it stands for the place of an argument, the
arguments part into what is before it, itself, and what is behind it; where it stands for a gap,
they part there. By these parts it is told what an access or a change does. An argument in a gap
has the place that the gap had, since arguments with it are as many as gaps without it: so the
index of the gap finds it, and takes it away again.
-/

namespace PayloadExchange

/-- The index stands for this place: from zero on it counts from the front, below zero from the
    end. -/
inductive StandsFor (places : Nat) (index : Int) (place : Nat) : Prop where
  | fromFront : 0 ≤ index → index < places → (place : Int) = index → StandsFor places index place
  | fromEnd : -places ≤ index → index < 0 → (place : Int) = places + index →
      StandsFor places index place

/-- The index stands for one of so many places. -/
def InRange (places : Nat) (index : Int) : Prop := -places ≤ index ∧ index < places

theorem StandsFor.lt {places place : Nat} {index : Int} (stands : StandsFor places index place) :
    place < places := by
  cases stands with
  | fromFront => omega
  | fromEnd => omega

theorem StandsFor.last (places : Nat) : StandsFor (places + 1) (-1) places :=
  .fromEnd (by omega) (by omega) (by omega)

theorem exists_standsFor_iff {places : Nat} {index : Int} :
    (∃ place, StandsFor places index place) ↔ InRange places index := by
  constructor
  · rintro ⟨place, stands⟩
    cases stands with
    | fromFront => constructor <;> omega
    | fromEnd => constructor <;> omega
  · rintro ⟨lower, upper⟩
    by_cases negative : index < 0
    · exact ⟨(places + index).toNat, .fromEnd lower negative (by omega)⟩
    · exact ⟨index.toNat, .fromFront (by omega) upper (by omega)⟩

theorem place?_eq_some_iff_standsFor {count : Nat} {index : Int64} {place : Fin count}
    (small : count < 9223372036854775808) :
    place? count index = some place ↔ StandsFor count index.toInt place := by
  have bound := place.isLt
  rw [place?_eq_some_iff small]
  constructor
  · intro same
    split at same
    · next negative => exact .fromEnd (by omega) negative same
    · next positive => exact .fromFront (by omega) (by omega) same
  · intro stands
    cases stands with
    | fromFront positive upper same => rw [if_neg (by omega), same]
    | fromEnd lower negative same => rw [if_pos negative, same]

theorem checkedSum_of_negative {places : Nat} (small : places < 9223372036854775808)
    {index : Int64} (negative : index < 0) :
    ∃ sum, checkedSum (Int64.ofNat places) index = some sum ∧
      sum.toInt = places + index.toInt := by
  have fits : (Int64.ofNat places).toInt = places := Int64.toInt_ofNat_of_lt small
  have below : index.toInt < 0 := by simpa [Int64.lt_iff_toInt_lt] using negative
  have lower : -9223372036854775808 ≤ index.toInt := Int64.minValue_le_toInt index
  have upper : (places : Int) ≤ 9223372036854775807 := by omega
  have exact : (Int64.ofInt (places + index.toInt)).toInt = places + index.toInt :=
    Int64.toInt_ofInt_of_le (by omega) (by omega)
  exact ⟨_, checkedSum_eq_some_iff.2 (by rw [exact, fits]), exact⟩

section

variable {α : Type} (items : List α) (index : Int)

/-- An index parts a list at an item, or else it is out of range. -/
theorem parts_at_item :
    (∃ front item back, items = front ++ item :: back ∧
      StandsFor items.length index front.length) ∨ ¬ InRange items.length index := by
  by_cases inside : InRange items.length index
  · obtain ⟨place, stands⟩ := exists_standsFor_iff.2 inside
    have within := stands.lt
    refine .inl ⟨items.take place, items[place], items.drop (place + 1), ?_, ?_⟩
    · rw [List.getElem_cons_drop, List.take_append_drop]
    · rwa [List.length_take_of_le (Nat.le_of_lt within)]
  · exact .inr inside

/-- An index parts a list in a gap, or else it is out of range of the gaps. -/
theorem parts_at_gap :
    (∃ front back, items = front ++ back ∧
      StandsFor (items.length + 1) index front.length) ∨ ¬ InRange (items.length + 1) index := by
  by_cases inside : InRange (items.length + 1) index
  · obtain ⟨place, stands⟩ := exists_standsFor_iff.2 inside
    have within := stands.lt
    refine .inl ⟨items.take place, items.drop place, (List.take_append_drop _ _).symm, ?_⟩
    rwa [List.length_take_of_le (Nat.le_of_lt_succ within)]
  · exact .inr inside

end

namespace Payload

variable {payload : Payload} {places place : Nat} {index : Int64}

theorem place_of_standsFor (payload : Payload) (small : places < 9223372036854775808)
    (stands : StandsFor places index.toInt place) :
    payload.place places index = .ok ⟨place, stands.lt⟩ := by
  have found : place? places index = some ⟨place, stands.lt⟩ :=
    (place?_eq_some_iff_standsFor small).2 stands
  rw [Payload.place, found]

theorem place_of_outside (small : places < 9223372036854775808)
    (outside : ¬ InRange places index.toInt) :
    payload.place places index = .error (.indexOutOfRange index payload.count) := by
  unfold Payload.place
  split
  · next place found =>
      have stands := (place?_eq_some_iff_standsFor small).1 found
      exact absurd (exists_standsFor_iff.1 ⟨_, stands⟩) outside
  · rfl

section

variable {front back : List Bytes} {arg : Bytes}

theorem get_of_parts (parts : payload.args = front ++ arg :: back)
    (small : payload.count < 9223372036854775808)
    (stands : StandsFor payload.count index.toInt front.length) : payload.get index = .ok arg := by
  have found : payload.place payload.args.length index = .ok _ :=
    payload.place_of_standsFor small stands
  rw [get, found]
  exact congrArg Except.ok (List.getElem_of_append parts rfl)

/-- The number of the arguments in front is itself an index of the argument. -/
theorem get_behind (parts : payload.args = front ++ arg :: back)
    (small : payload.count < 9223372036854775808) :
    payload.get (.ofNat front.length) = .ok arg := by
  have within : front.length < payload.count := by simp [count, parts]
  have word : (Int64.ofNat front.length).toInt = front.length :=
    Int64.toInt_ofNat_of_lt (Nat.lt_trans within small)
  refine get_of_parts parts small (.fromFront ?_ ?_ word.symm)
  · omega
  · omega

theorem set_of_parts (parts : payload.args = front ++ arg :: back)
    (small : payload.count < 9223372036854775808)
    (stands : StandsFor payload.count index.toInt front.length) (other : Bytes) :
    payload.set index other = .ok { payload with args := front ++ other :: back } := by
  have found : payload.place payload.args.length index = .ok _ :=
    payload.place_of_standsFor small stands
  rw [set, found]
  show Except.ok { payload with args := payload.args.set front.length other } = _
  rw [parts, List.set_append_right _ _ (Nat.le_refl _), Nat.sub_self, List.set_cons_zero]

theorem remove_of_parts (parts : payload.args = front ++ arg :: back)
    (small : payload.count < 9223372036854775808)
    (stands : StandsFor payload.count index.toInt front.length) :
    payload.remove index = .ok (arg, { payload with args := front ++ back }) := by
  have found : payload.place payload.args.length index = .ok _ :=
    payload.place_of_standsFor small stands
  rw [remove, found]
  have removed : payload.args.get ⟨front.length, stands.lt⟩ = arg :=
    List.getElem_of_append parts rfl
  have rest : payload.args.eraseIdx front.length = front ++ back := by
    rw [parts, List.eraseIdx_append_of_length_le (Nat.le_refl _), Nat.sub_self]
    rfl
  show Except.ok (payload.args.get ⟨front.length, stands.lt⟩,
    { payload with args := payload.args.eraseIdx front.length }) = _
  rw [removed, rest]

theorem insert_of_parts (parts : payload.args = front ++ back)
    (small : payload.count + 1 < 9223372036854775808)
    (stands : StandsFor (payload.count + 1) index.toInt front.length) (arg : Bytes) :
    payload.insert index arg = .ok { payload with args := front ++ arg :: back } := by
  have found : payload.place (payload.args.length + 1) index = .ok _ :=
    payload.place_of_standsFor small stands
  rw [insert, found]
  have grown : payload.args.insertIdx front.length arg = front ++ arg :: back := by
    rw [parts]
    exact List.modifyTailIdx_add (arg :: ·) 0 front back
  show Except.ok { payload with args := payload.args.insertIdx front.length arg } = _
  rw [grown]

end

section

variable {front : List Bytes} {arg : Bytes} (parts : payload.args = front ++ [arg])
include parts

theorem pop_of_parts : payload.pop = .ok (arg, { payload with args := front }) := by
  rw [pop, parts, List.getLast?_concat, List.dropLast_concat]

theorem standsFor_last : StandsFor payload.count (-1 : Int64).toInt front.length := by
  rw [count, parts, List.length_append]
  exact .last front.length

theorem get_last (small : payload.count < 9223372036854775808) : payload.get (-1) = .ok arg :=
  get_of_parts parts small (standsFor_last parts)

theorem remove_last (small : payload.count < 9223372036854775808) :
    payload.remove (-1) = .ok (arg, { payload with args := front }) := by
  rw [remove_of_parts parts small (standsFor_last parts), List.append_nil]

end

theorem pop_of_nil (none : payload.args = []) : payload.pop = .error .nothingToPop := by
  rw [pop, none]
  rfl

theorem pop_cases (payload : Payload) :
    (∃ front arg, payload.args = front ++ [arg] ∧
      payload.pop = .ok (arg, { payload with args := front })) ∨
    payload.args = [] ∧ payload.pop = .error .nothingToPop := by
  rcases List.eq_nil_or_concat payload.args with none | ⟨front, arg, parts⟩
  · exact .inr ⟨none, pop_of_nil none⟩
  · rw [List.concat_eq_append] at parts
    exact .inl ⟨front, arg, parts, pop_of_parts parts⟩

theorem get_of_outside (small : payload.count < 9223372036854775808)
    (outside : ¬ InRange payload.count index.toInt) :
    payload.get index = .error (.indexOutOfRange index payload.count) := by
  have refused : payload.place payload.args.length index = .error _ :=
    place_of_outside small outside
  rw [get, refused]
  rfl

theorem set_of_outside (small : payload.count < 9223372036854775808)
    (outside : ¬ InRange payload.count index.toInt) (arg : Bytes) :
    payload.set index arg = .error (.indexOutOfRange index payload.count) := by
  have refused : payload.place payload.args.length index = .error _ :=
    place_of_outside small outside
  rw [set, refused]
  rfl

theorem remove_of_outside (small : payload.count < 9223372036854775808)
    (outside : ¬ InRange payload.count index.toInt) :
    payload.remove index = .error (.indexOutOfRange index payload.count) := by
  have refused : payload.place payload.args.length index = .error _ :=
    place_of_outside small outside
  rw [remove, refused]
  rfl

theorem insert_of_outside (small : payload.count + 1 < 9223372036854775808)
    (outside : ¬ InRange (payload.count + 1) index.toInt) (arg : Bytes) :
    payload.insert index arg = .error (.indexOutOfRange index payload.count) := by
  have refused : payload.place (payload.args.length + 1) index = .error _ :=
    place_of_outside small outside
  rw [insert, refused]
  rfl

theorem insert_cases (small : payload.count + 1 < 9223372036854775808) (index : Int64)
    (arg : Bytes) :
    (∃ front back, payload.args = front ++ back ∧
      StandsFor (payload.count + 1) index.toInt front.length ∧
      payload.insert index arg = .ok { payload with args := front ++ arg :: back }) ∨
    ¬ InRange (payload.count + 1) index.toInt ∧
      payload.insert index arg = .error (.indexOutOfRange index payload.count) := by
  rcases parts_at_gap payload.args index.toInt with ⟨front, back, parts, stands⟩ | outside
  · exact .inl ⟨front, back, parts, stands, insert_of_parts parts small stands arg⟩
  · exact .inr ⟨outside, insert_of_outside small outside arg⟩

theorem remove_cases (small : payload.count < 9223372036854775808) (index : Int64) :
    (∃ front arg back, payload.args = front ++ arg :: back ∧
      StandsFor payload.count index.toInt front.length ∧
      payload.remove index = .ok (arg, { payload with args := front ++ back })) ∨
    ¬ InRange payload.count index.toInt ∧
      payload.remove index = .error (.indexOutOfRange index payload.count) := by
  rcases parts_at_item payload.args index.toInt with ⟨front, arg, back, parts, stands⟩ | outside
  · exact .inl ⟨front, arg, back, parts, stands, remove_of_parts parts small stands⟩
  · exact .inr ⟨outside, remove_of_outside small outside⟩

theorem get_and_remove_inserted {grown : Payload} (small : payload.count + 1 < 9223372036854775808)
    {arg : Bytes} (inserted : payload.insert index arg = .ok grown) :
    grown.get index = .ok arg ∧ grown.remove index = .ok (arg, payload) := by
  rcases insert_cases small index arg with ⟨front, back, parts, stands, done⟩ | ⟨-, refused⟩
  · obtain rfl := Except.ok.inj (done.symm.trans inserted)
    -- There are as many arguments now as there were gaps.
    have count :
        Payload.count { payload with args := front ++ arg :: back } = payload.count + 1 := by
      simp only [Payload.count, parts, List.length_append, List.length_cons, Nat.add_assoc]
    rw [← count] at small stands
    have removed := remove_of_parts rfl small stands
    simp only [← parts] at removed
    exact ⟨get_of_parts rfl small stands, removed⟩
  · rw [refused] at inserted
    cases inserted

theorem insert_removed {shrunk : Payload} (small : payload.count < 9223372036854775808)
    {removed : Bytes} (done : payload.remove index = .ok (removed, shrunk)) (arg : Bytes) :
    shrunk.insert index arg = payload.set index arg := by
  rcases remove_cases small index with ⟨front, found, back, parts, stands, same⟩ | ⟨-, refused⟩
  · obtain ⟨rfl, rfl⟩ := Prod.mk.inj (Except.ok.inj (same.symm.trans done))
    rw [set_of_parts parts small stands]
    -- There are as many gaps now as there were arguments.
    have count : payload.count = Payload.count { payload with args := front ++ back } + 1 := by
      simp only [Payload.count, parts, List.length_append, List.length_cons, Nat.add_assoc]
    rw [count] at small stands
    exact insert_of_parts rfl small stands arg
  · rw [refused] at done
    cases done

theorem set_removed {shrunk : Payload} (small : payload.count < 9223372036854775808)
    {removed : Bytes} (done : payload.remove index = .ok (removed, shrunk)) :
    payload.set index removed = .ok payload := by
  rcases remove_cases small index with ⟨front, found, back, parts, stands, same⟩ | ⟨-, refused⟩
  · obtain ⟨rfl, -⟩ := Prod.mk.inj (Except.ok.inj (same.symm.trans done))
    rw [set_of_parts parts small stands, ← parts]
  · rw [refused] at done
    cases done

theorem insert_succeeds_iff (small : payload.count + 1 < 9223372036854775808) (arg : Bytes) :
    (∃ grown, payload.insert index arg = .ok grown) ↔ InRange (payload.count + 1) index.toInt := by
  rcases insert_cases small index arg with ⟨front, back, -, stands, done⟩ | ⟨outside, refused⟩
  · exact iff_of_true ⟨_, done⟩ (exists_standsFor_iff.1 ⟨_, stands⟩)
  · exact iff_of_false (by simp [refused]) outside

theorem remove_succeeds_iff (small : payload.count < 9223372036854775808) :
    (∃ removed shrunk, payload.remove index = .ok (removed, shrunk))
      ↔ InRange payload.count index.toInt := by
  rcases remove_cases small index with ⟨front, arg, back, -, stands, done⟩ | ⟨outside, refused⟩
  · exact iff_of_true ⟨_, _, done⟩ (exists_standsFor_iff.1 ⟨_, stands⟩)
  · exact iff_of_false (by simp [refused]) outside

theorem set_succeeds_iff (small : payload.count < 9223372036854775808) (arg : Bytes) :
    (∃ changed, payload.set index arg = .ok changed) ↔ InRange payload.count index.toInt := by
  rcases parts_at_item payload.args index.toInt with ⟨front, old, back, parts, stands⟩ | outside
  · exact iff_of_true ⟨_, set_of_parts parts small stands arg⟩ (exists_standsFor_iff.1 ⟨_, stands⟩)
  · exact iff_of_false (by simp [set_of_outside small outside]) outside

/-- One signed index means the same place to an insertion, and to a look, a removal or a
    replacement afterwards, although they count different numbers of places. An insertion is found
    and undone by its own index; a removal is undone by an insertion at its index; and a
    replacement is a removal with an insertion after it, and succeeds just if the removal does. -/
theorem index_means_one_place {payload : Payload} (small : payload.count < 9223372036854775807)
    (index : Int64) (arg : Bytes) :
    ((∃ grown, payload.insert index arg = .ok grown)
      ↔ InRange (payload.count + 1) index.toInt) ∧
    (∀ grown, payload.insert index arg = .ok grown →
      grown.get index = .ok arg ∧ grown.remove index = .ok (arg, payload)) ∧
    ((∃ removed shrunk, payload.remove index = .ok (removed, shrunk))
      ↔ InRange payload.count index.toInt) ∧
    (∀ removed shrunk, payload.remove index = .ok (removed, shrunk) →
      shrunk.insert index removed = .ok payload) ∧
    ((∃ changed, payload.set index arg = .ok changed)
      ↔ ∃ removed shrunk, payload.remove index = .ok (removed, shrunk)) ∧
    ∀ removed shrunk, payload.remove index = .ok (removed, shrunk) →
      shrunk.insert index arg = payload.set index arg := by
  have gaps : payload.count + 1 < 9223372036854775808 := by omega
  have items : payload.count < 9223372036854775808 := by omega
  refine ⟨insert_succeeds_iff gaps arg, fun grown => get_and_remove_inserted gaps,
    remove_succeeds_iff items, ?_, ?_, fun removed shrunk done => insert_removed items done arg⟩
  · intro removed shrunk done
    rw [insert_removed items done, set_removed items done]
  · rw [set_succeeds_iff items, remove_succeeds_iff items]

/-- The last gap is -1, and so is then the place of the argument in it; the first of the two
    arguments is removed, put back and replaced at -2. -/
theorem last_gap_and_first_argument :
    let payload : Payload := { args := [[1], [2]] }
    payload.count < 9223372036854775807 ∧
      payload.insert (-1) [3] = .ok { args := [[1], [2], [3]] } ∧
      Payload.remove { args := [[1], [2], [3]] } (-1) = .ok ([3], payload) ∧
      payload.remove (-2) = .ok ([1], { args := [[2]] }) ∧
      Payload.insert { args := [[2]] } (-2) [1] = .ok payload ∧
      payload.set (-2) [4] = .ok { args := [[4], [2]] } ∧
      Payload.insert { args := [[2]] } (-2) [4] = .ok { args := [[4], [2]] } := by
  intro payload
  have small : payload.count < 9223372036854775807 := by decide
  have inserted : payload.insert (-1) [3] = .ok { args := [[1], [2], [3]] } := by rfl
  have removed : payload.remove (-2) = .ok ([1], { args := [[2]] }) := by rfl
  have replaced : payload.set (-2) [4] = .ok { args := [[4], [2]] } := by rfl
  obtain ⟨-, undone, -⟩ := index_means_one_place small (-1) [3]
  obtain ⟨-, -, -, restored, -, again⟩ := index_means_one_place small (-2) [4]
  exact ⟨small, inserted, (undone _ inserted).2, removed, restored _ _ removed, replaced,
    (again _ _ removed).trans replaced⟩

end Payload

end PayloadExchange
