import PayloadExchange.Proofs.Registry.Effect

/-! # Handles are issued in order

The handles of a run are 1, 2, 3 and so on, whatever was removed or refused in between.
What carries the proof is `Issued`: after so many insertions the next number follows them,
and no live handle is beyond them. The count ends where the 64-bit counter wraps.
-/

namespace PayloadExchange.Registry

/-- The handles that a run hands out, first to last. -/
def issued (answers : List (Except Fault Answer)) : List Handle := answers.filterMap issuedBy

/-- A registry after so many insertions. -/
structure Issued (total : Nat) (registry : Registry) : Prop where
  next : registry.next = UInt64.ofNat (total + 1)
  live : ∀ handle ∈ registry.entries, handle.toNat ≤ total

namespace Issued

theorem empty (config : Config) : Issued 0 (.empty config) where
  next := rfl
  live := by
    intro handle live
    simp [Registry.empty] at live

theorem shrink {total : Nat} {registry smaller : Registry} (before : Issued total registry)
    (same : smaller.next = registry.next)
    (fewer : ∀ handle ∈ smaller.entries, handle ∈ registry.entries) : Issued total smaller where
  next := same.trans before.next
  live := fun handle live => before.live handle (fewer handle live)

theorem absent {total : Nat} {registry : Registry} {fresh : Handle}
    (before : Issued total registry) (number : fresh.toNat = total + 1) :
    fresh ∉ registry.entries := by
  intro live
  have := before.live fresh live
  omega

theorem toNat_issue {total : Nat} {registry : Registry} (before : Issued total registry)
    (room : total < 18446744073709551615) : registry.issue.toNat = total + 1 := by
  have number : registry.next.toNat = total + 1 := by
    rw [before.next, UInt64.toNat_ofNat_of_lt']
    simp only [UInt64.size]
    omega
  have nonzero : registry.next ≠ 0 := by
    intro zero
    simp [zero] at number
  simp only [issue, nonzero, if_false, number]

theorem insert {total : Nat} {registry grown : Registry} {object : Object} {fresh : Handle}
    (before : Issued total registry) (room : total < 18446744073709551615)
    (stored : registry.insert object = .ok (fresh, grown)) :
    fresh.toNat = total + 1 ∧ Issued (total + 1) grown := by
  have number := before.toNat_issue room
  unfold Registry.insert at stored
  split at stored
  · simp at stored
  · simp only [Except.ok.injEq, Prod.mk.injEq] at stored
    obtain ⟨rfl, rfl⟩ := stored
    refine ⟨number, ?_, ?_⟩
    · have same : registry.issue = UInt64.ofNat (total + 1) := by
        rw [← number, UInt64.ofNat_toNat]
      rw [same]
      exact (UInt64.ofNat_add (total + 1) 1).symm
    · intro handle live
      simp only [Std.ExtTreeMap.mem_insert, Std.LawfulEqCmp.compare_eq_iff_eq] at live
      rcases live with rfl | old
      · exact Nat.le_of_eq number
      · exact Nat.le_succ_of_le (before.live handle old)

end Issued

theorem take_shrinks {registry without : Registry} {handle : Handle} {object : Object}
    (taken : registry.take handle = .ok (object, without)) :
    without.next = registry.next ∧ ∀ key ∈ without.entries, key ∈ registry.entries := by
  unfold take at taken
  split at taken
  · simp only [Except.ok.injEq, Prod.mk.injEq] at taken
    obtain ⟨-, rfl⟩ := taken
    exact ⟨rfl, fun key live => (Std.ExtTreeMap.mem_erase.1 live).2⟩
  · simp at taken

/-- One operation either hands out no handle and leaves the counter alone, or hands out the
    handle that follows, under which nothing was stored. -/
theorem Issued.step {total : Nat} {registry changed : Registry} {answer : Except Fault Answer}
    (before : Issued total registry) (effect : Effect registry answer changed) :
    (issuedBy answer = none ∧ changed.next = registry.next ∧ Issued total changed) ∨
    (∃ fresh, answer = .ok (.handle fresh) ∧ (total < 18446744073709551615 →
      fresh.toNat = total + 1 ∧ fresh ∉ registry.entries ∧ Issued (total + 1) changed)) := by
  cases effect with
  | nothing silent => exact .inl ⟨silent, rfl, before⟩
  | @edited _ handle object payload silent live =>
      refine .inl ⟨silent, rfl, before.shrink rfl ?_⟩
      intro key found
      rcases Std.ExtTreeMap.mem_insert.1 found with same | old
      · rw [← Std.LawfulEqCmp.compare_eq_iff_eq.1 same, Std.ExtTreeMap.mem_iff_isSome_getElem?,
          live, Option.isSome_some]
      · exact old
  | removed silent taken =>
      obtain ⟨same, fewer⟩ := take_shrinks taken
      exact .inl ⟨silent, same, before.shrink same fewer⟩
  | cleared =>
      refine .inl ⟨rfl, rfl, before.shrink rfl ?_⟩
      intro key live
      simp [clear] at live
  | inserted stored =>
      refine .inr ⟨_, rfl, fun room => ?_⟩
      obtain ⟨number, after⟩ := before.insert room stored
      exact ⟨number, before.absent number, after⟩
  | moved taken stored =>
      refine .inr ⟨_, rfl, fun room => ?_⟩
      obtain ⟨same, fewer⟩ := take_shrinks taken
      obtain ⟨number, after⟩ := (before.shrink same fewer).insert room stored
      exact ⟨number, before.absent number, after⟩

theorem performAll_cons (registry : Registry) (operation : Operation)
    (operations : List Operation) :
    registry.performAll (operation :: operations) =
      ((registry.perform operation).1 :: ((registry.perform operation).2.performAll operations).1,
        ((registry.perform operation).2.performAll operations).2) := rfl

theorem performAll_append (registry : Registry) (first second : List Operation) :
    registry.performAll (first ++ second) =
      ((registry.performAll first).1 ++ ((registry.performAll first).2.performAll second).1,
        ((registry.performAll first).2.performAll second).2) := by
  induction first generalizing registry with
  | nil => rfl
  | cons operation first ih => simp only [List.cons_append, performAll_cons, ih]

/-- A run goes on counting where the registry stands. -/
theorem Issued.run {total : Nat} {registry : Registry} (before : Issued total registry)
    (operations : List Operation)
    (few : total + (issued (registry.performAll operations).1).length
      ≤ 18446744073709551615) :
    (issued (registry.performAll operations).1).map UInt64.toNat
        = List.range' (total + 1) (issued (registry.performAll operations).1).length ∧
      Issued (total + (issued (registry.performAll operations).1).length)
        (registry.performAll operations).2 := by
  induction operations generalizing total registry with
  | nil => exact ⟨rfl, before⟩
  | cons operation operations ih =>
      rw [performAll_cons] at few ⊢
      rcases before.step (perform_effect registry operation) with
        ⟨silent, -, after⟩ | ⟨fresh, answered, counts⟩
      · simp only [issued, List.filterMap_cons, silent] at few ⊢
        exact ih after few
      · have named : issuedBy (registry.perform operation).1 = some fresh := by
          rw [answered]
          rfl
        simp only [issued, List.filterMap_cons, named, List.length_cons] at few ⊢
        obtain ⟨number, -, after⟩ := counts (by omega)
        obtain ⟨numbers, final⟩ := ih after (by simp only [issued]; omega)
        simp only [issued] at numbers final
        constructor
        · rw [List.map_cons, numbers, number, List.range'_succ]
        · rwa [Nat.add_assoc, Nat.add_comm 1] at final

/-- The k-th handle of a run is k, so that none is zero and none comes twice. Nothing is
    stored under a handle before it is issued, and a refusal does not use up a number. -/
theorem performAll_issues_in_order (config : Config) (operations : List Operation)
    (few : (issued ((empty config).performAll operations).1).length ≤ 18446744073709551615) :
    let handles := issued ((empty config).performAll operations).1
    (∀ (k : Nat) (inside : k < handles.length), handles[k].toNat = k + 1) ∧
      0 ∉ handles ∧ handles.Nodup ∧
      ∀ earlier operation later, operations = earlier ++ operation :: later →
        let registry := ((empty config).performAll earlier).2
        (∀ fresh, (registry.perform operation).1 = .ok (.handle fresh) →
          registry.entries[fresh]? = none) ∧
        (∀ fault, (registry.perform operation).1 = .error fault →
          (registry.perform operation).2.next = registry.next) := by
  intro handles
  have numbers : handles.map UInt64.toNat = List.range' 1 handles.length :=
    ((Issued.empty config).run operations (by rwa [Nat.zero_add])).1
  have inOrder : ∀ (k : Nat) (inside : k < handles.length), handles[k].toNat = k + 1 := by
    intro k inside
    have placed := congrArg (fun list => list[k]?) numbers
    rw [List.getElem?_map, List.getElem?_eq_getElem inside, Option.map_some,
      List.getElem?_range' inside, Option.some.injEq] at placed
    omega
  have positive : 0 ∉ handles := by
    intro member
    obtain ⟨k, inside, zero⟩ := List.getElem_of_mem member
    have := inOrder k inside
    simp [zero] at this
  have distinct : handles.Nodup := by
    apply List.Pairwise.of_map (S := (· ≠ ·)) UInt64.toNat
    · intro a b apart same
      exact apart (congrArg UInt64.toNat same)
    · rw [numbers]
      exact List.nodup_range'
  refine ⟨inOrder, positive, distinct, ?_⟩
  rintro earlier operation later rfl registry
  rw [performAll_append, performAll_cons, issued, List.filterMap_append, List.length_append,
    List.filterMap_cons] at few
  obtain ⟨-, before⟩ := (Issued.empty config).run earlier (by simp only [issued]; omega)
  rcases before.step (perform_effect registry operation) with
    ⟨silent, same, -⟩ | ⟨fresh, answered, counts⟩
  · constructor
    · intro fresh answered
      simp [answered, issuedBy] at silent
    · intro fault refused
      exact same
  · constructor
    · intro other answered'
      obtain rfl : fresh = other := by simpa [answered] using answered'
      rw [show issuedBy (registry.perform operation).1 = some fresh by rw [answered]; rfl] at few
      have room : (issued ((empty config).performAll earlier).1).length < 18446744073709551615 := by
        simp only [List.length_cons] at few
        simp only [issued]
        omega
      rw [← Nat.zero_add (issued _).length] at room
      obtain ⟨-, absent, -⟩ := counts room
      exact Std.ExtTreeMap.getElem?_eq_none absent
    · intro fault refused
      simp [answered] at refused

/-- A refusal at a cap of two, a removal, a move and a clearing use up no number. -/
theorem issues_in_order_at_a_cap :
    let operations : List Operation :=
      [.insert {}, .insert { names := some ("a", "b") }, .insert {}, .delete 1, .move 2, .clear,
        .insert {}]
    let handles := issued ((empty ⟨2⟩).performAll operations).1
    handles.length ≤ 18446744073709551615 ∧ handles = [1, 2, 3, 4] ∧
      ∀ (k : Nat) (inside : k < handles.length), handles[k].toNat = k + 1 := by
  intro operations handles
  have few : handles.length ≤ 18446744073709551615 := by decide +kernel
  exact ⟨few, by decide +kernel, (performAll_issues_in_order ⟨2⟩ operations few).1⟩

end PayloadExchange.Registry
