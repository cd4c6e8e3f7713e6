import PayloadExchange.Proofs.Json.Grammar

/-! # The members of an object

Collecting keeps what the grammar says is kept: the last member under each key, in the order of
the keys. Nothing else is left to choose, so members that leave the same last one under every key
are collected to the same.
-/

namespace PayloadExchange.Json

variable {written others kept : List (String × Value)} {key : String} {value : Value}

theorem not_lastUnder_nil : ¬ LastUnder [] key value := by
  rintro ⟨before, after, split, -⟩
  cases before <;> cases split

theorem lastUnder_cons {first : String × Value} : LastUnder (first :: others) key value ↔
    LastUnder others key value ∨ first = (key, value) ∧ ∀ member ∈ others, member.1 ≠ key := by
  constructor
  · rintro ⟨before, after, split, last⟩
    cases before with
    | nil =>
        obtain ⟨rfl, rfl⟩ := List.cons.inj split
        exact .inr ⟨rfl, last⟩
    | cons _ before =>
        obtain ⟨rfl, rfl⟩ := List.cons.inj split
        exact .inl ⟨before, after, rfl, last⟩
  · rintro (⟨before, after, rfl, last⟩ | ⟨rfl, last⟩)
    · exact ⟨first :: before, after, rfl, last⟩
    · exact ⟨[], others, rfl, last⟩

theorem LastUnder.mem (last : LastUnder written key value) : (key, value) ∈ written := by
  obtain ⟨before, after, rfl, -⟩ := last
  simp

theorem getElem?_insertAll (written : List (String × Value))
    (tree : Std.TreeMap String Value keyOrder) :
    (written.foldl (fun tree member => tree.insert member.1 member.2) tree)[key]? = some value ↔
      LastUnder written key value ∨
        tree[key]? = some value ∧ ∀ member ∈ written, member.1 ≠ key := by
  induction written generalizing tree with
  | nil => simp [not_lastUnder_nil]
  | cons first others ih =>
      rw [List.foldl_cons, ih, lastUnder_cons, List.forall_mem_cons, Std.TreeMap.getElem?_insert]
      by_cases same : first.1 = key <;> simp [same, Prod.ext_iff]

theorem collected_collect (written : List (String × Value)) :
    Collected written (collect written) where
  ascending := collect_ascending written
  last key value := by
    rw [collect, Std.TreeMap.mem_toList_iff_getElem?_eq_some, getElem?_insertAll]
    simp

/-- Lists in the order of the keys are equal if they have the same members. -/
theorem eq_of_mem_iff (ascending : kept.Pairwise fun a b => keyOrder a.1 b.1 = .lt)
    (ordered : others.Pairwise fun a b => keyOrder a.1 b.1 = .lt)
    (same : ∀ member, member ∈ kept ↔ member ∈ others) : kept = others := by
  have distinct {members : List (String × Value)}
      (ascending : members.Pairwise fun a b => keyOrder a.1 b.1 = .lt) : members.Nodup := by
    refine ascending.imp ?_
    rintro a _ below rfl
    simp [Std.ReflCmp.compare_self] at below
  refine List.Perm.eq_of_pairwise ?_ ascending ordered
    ((List.perm_ext_iff_of_nodup (distinct ascending) (distinct ordered)).2 same)
  intro a b _ _ up down
  exact absurd down (Std.OrientedCmp.not_lt_of_lt up)

theorem Collected.eq_collect (collected : Collected written kept) : kept = collect written := by
  apply eq_of_mem_iff collected.ascending (collect_ascending written)
  rintro ⟨key, value⟩
  rw [collected.last, (collected_collect written).last]

theorem mem_of_mem_collect {member : String × Value} (found : member ∈ collect written) :
    member ∈ written :=
  (((collected_collect written).last member.1 member.2).1 found).mem

theorem collected_self (ascending : kept.Pairwise fun a b => keyOrder a.1 b.1 = .lt) :
    Collected kept kept where
  ascending := ascending
  last key value := by
    constructor
    · intro listed
      obtain ⟨before, after, rfl⟩ := List.append_of_mem listed
      refine ⟨before, after, rfl, ?_⟩
      intro member later
      have below := (List.pairwise_cons.1 (List.pairwise_append.1 ascending).2.1).1 member later
      rintro rfl
      simp [Std.ReflCmp.compare_self] at below
    · exact LastUnder.mem

end PayloadExchange.Json
