import PayloadExchange.Proofs.Registry.Accounting
import PayloadExchange.Proofs.Registry.WellFormed

/-! # What stays of a stored object

From its insertion to its removal an object keeps its kind and its names, whatever becomes of its
payload. Its handle would have to be issued anew for another object to take its place, and that
does not happen before the numbers run out.
-/

namespace PayloadExchange.Registry

variable {start past registry : Registry} {events earlier later : List Event}
  {handle : Handle} {object : Object}

/-- Behind the handle is an object of this kind and with these names, and it is what a removal
    hands over. -/
structure Retains (registry : Registry) (handle : Handle) (object : Object) : Prop where
  kind : registry.kindOf handle = object.kind
  stored : ∃ found, registry.lookup handle = .ok found ∧
    found.kind = object.kind ∧ found.names = object.names
  taken : ∃ taken without, registry.take handle = .ok (taken, without) ∧
    taken.kind = object.kind ∧ taken.names = object.names

theorem retains_of_stored {found : Object} (live : registry.entries[handle]? = some found)
    (kind : found.kind = object.kind) (names : found.names = object.names) :
    registry.Retains handle object where
  kind := by rw [kindOf, live, ← kind]
  stored := ⟨found, lookup_eq_ok_iff.2 live, kind, names⟩
  taken := ⟨found, _, by rw [take, live], kind, names⟩

theorem not_retains_of_kind {found : Object} (live : registry.lookup handle = .ok found)
    (other : found.kind ≠ object.kind) : ¬ registry.Retains handle object := by
  intro kept
  obtain ⟨same, stored, kind, -⟩ := kept.stored
  obtain rfl := Except.ok.inj (live.symm.trans stored)
  exact other kind

/-- What is neither withdrawn nor overwritten keeps its kind and its names. -/
theorem Course.keeps (course : Course start events registry)
    (stored : start.entries[handle]? = some object)
    (spared : ∀ event ∈ events, ¬ event.Withdraws handle) (single : .issued handle ∉ events) :
    ∃ found, registry.entries[handle]? = some found ∧
      found.kind = object.kind ∧ found.names = object.names := by
  induction course with
  | start => exact ⟨object, stored, rfl, rfl⟩
  | @edited events registry edited before payload _ live ih =>
      obtain ⟨found, held, kind, names⟩ := ih spared single
      by_cases same : edited = handle
      · subst same
        obtain rfl := Option.some.inj (live.symm.trans held)
        refine ⟨before.withPayload payload, by simp, ?_, ?_⟩
        · rwa [Object.kind_withPayload]
        · rwa [Object.names_withPayload]
      · exact ⟨found, by simpa [Std.ExtTreeMap.getElem?_insert, same] using held, kind, names⟩
  | @issued events registry inserted fresh grown _ insertion ih =>
      simp only [List.mem_append, List.mem_singleton, not_or] at spared single
      obtain ⟨found, held, kind, names⟩ :=
        ih (fun event member => spared event (.inl member)) single.1
      have other : fresh ≠ handle := fun same => single.2 (same ▸ rfl)
      refine ⟨found, ?_, kind, names⟩
      rwa [(getElem?_entries_insert insertion handle).2, if_neg other]
  | @removed events registry gone removed without _ taken ih =>
      simp only [List.mem_append, List.mem_singleton, not_or] at spared single
      obtain ⟨found, held, kind, names⟩ :=
        ih (fun event member => spared event (.inl member)) single.1
      have other : gone ≠ handle := spared (.removed gone) (.inr rfl)
      exact ⟨found, by rwa [getElem?_entries_take taken handle, if_neg other], kind, names⟩
  | cleared _ ih =>
      exact absurd trivial (spared (.cleared _) (List.mem_append_right _ List.mem_cons_self))

theorem Course.trans (first : Course start earlier past) (second : Course past later registry) :
    Course start (earlier ++ later) registry := by
  induction second with
  | start => rwa [List.append_nil]
  | edited payload _ live ih => exact ih.edited payload live
  | issued _ stored ih => exact List.append_assoc earlier _ _ ▸ ih.issued stored
  | removed _ taken ih => exact List.append_assoc earlier _ _ ▸ ih.removed taken
  | cleared _ ih => exact List.append_assoc earlier _ _ ▸ ih.cleared

/-- No handle is issued twice while the numbers last. -/
theorem Course.issued_once {config : Config} (course : Course (.empty config) events registry)
    (few : insertions events ≤ 18446744073709551615) (handle : Handle) :
    events.count (.issued handle) ≤ 1 := by
  induction course with
  | start => exact Nat.zero_le 1
  | edited _ _ _ ih => exact ih few
  | @issued events registry object fresh grown before stored ih =>
      rw [insertions_append] at few
      simp only [Event.isInsertion, if_true] at few
      have accounts := before.accounts (by omega)
      have counted : (events ++ [Event.issued fresh]).count (.issued handle)
          = events.count (.issued handle) + if fresh = handle then 1 else 0 := by
        simp [List.count_append, List.count_singleton]
      by_cases same : fresh = handle
      · -- The fresh number exceeds every number issued before.
        subst same
        obtain ⟨number, -⟩ := accounts.numbered.insert (by omega) stored
        have absent : .issued fresh ∉ events := by
          intro member
          have := (accounts.range fresh member).2
          omega
        simp [counted, List.count_eq_zero_of_not_mem absent]
      · rw [counted, if_neg same]
        exact ih (by omega)
  | removed _ _ ih =>
      rw [insertions_append] at few
      rw [List.count_append]
      exact ih few
  | cleared _ ih =>
      rw [insertions_append] at few
      rw [List.count_append]
      exact ih few

theorem Course.not_reissued {config : Config} (past : Course (.empty config) earlier start)
    (course : Course start later registry) (live : handle ∈ start.entries)
    (few : insertions (earlier ++ later) ≤ 18446744073709551615) : .issued handle ∉ later := by
  have whole := (past.trans course).issued_once few handle
  have fewer : insertions earlier ≤ 18446744073709551615 := by
    rw [insertions, List.countP_append] at few
    exact Nat.le_trans (Nat.le_add_right _ _) few
  obtain ⟨before, after, shape, -⟩ := ((past.accounts fewer).live handle).1 live
  have issued : 0 < earlier.count (.issued handle) := by
    rw [List.count_pos_iff, shape]
    simp
  rw [List.count_append] at whole
  exact List.count_eq_zero.1 (by omega)

/-- From a point in a course where an object is stored, to any later one before its removal. -/
theorem Course.retains {config : Config} (past : Course (.empty config) earlier start)
    (course : Course start later registry) (stored : start.lookup handle = .ok object)
    (spared : ∀ event ∈ later, ¬ event.Withdraws handle)
    (once : insertions (earlier ++ later) ≤ 18446744073709551615 ∨ .issued handle ∉ later) :
    registry.Retains handle object := by
  have live := lookup_eq_ok_iff.1 stored
  have single := once.elim (past.not_reissued course (mem_entries_of_live live)) id
  obtain ⟨found, held, kind, names⟩ := course.keeps live spared single
  exact retains_of_stored held kind names

end PayloadExchange.Registry
