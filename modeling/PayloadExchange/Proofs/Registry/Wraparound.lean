import PayloadExchange.Proofs.Registry.Accounting
import PayloadExchange.Proofs.Registry.Capacity

/-! # When the numbers run out

The counter of handles has 64 bits. Behind its last number it starts again at one, and nobody asks
whether that handle is still live: an object that was kept all along is overwritten by the next
one. No more than two objects have to be live at once for that, since a removal gives no number
back.
-/

namespace PayloadExchange.Registry

variable {registry : Registry} {handle : Handle} {object : Object}

/-- An operation withdraws no handle that it does not name, unless it withdraws them all. -/
theorem Operation.spares {operation : Operation} (unnamed : handle ∉ operation.names)
    (single : operation ≠ .clear) (answer : Except Fault Answer) :
    ∀ event ∈ operation.events answer, ¬ event.Withdraws handle := by
  cases operation with
  | clear => exact absurd rfl single
  | delete own | take own | move own =>
      simp only [names, List.mem_singleton] at unnamed
      unfold events
      split <;> simp_all [Event.Withdraws, eq_comm]
  | _ =>
      unfold events
      split <;> simp_all [Event.Withdraws]

theorem history_spares {operations : List Operation}
    (each : ∀ operation ∈ operations, handle ∉ operation.names ∧ operation ≠ .clear)
    (answers : List (Except Fault Answer)) :
    ∀ event ∈ history operations answers, ¬ event.Withdraws handle := by
  intro event member
  rw [history, ← List.map_uncurry_zip_eq_zipWith, List.mem_flatten] at member
  obtain ⟨events, listed, inside⟩ := member
  obtain ⟨⟨operation, answer⟩, paired, rfl⟩ := List.mem_map.1 listed
  obtain ⟨unnamed, single⟩ := each operation (List.of_mem_zip paired).1
  exact Operation.spares unnamed single answer event inside

theorem perform_insert {parts : Parts} {fresh : Handle} {grown : Registry}
    (built : parts.build = .ok object) (stored : registry.insert object = .ok (fresh, grown)) :
    registry.perform (.insert parts) = (.ok (.handle fresh), grown) := by
  simp only [perform, built, bind, Except.bind, stored]
  rfl

theorem perform_delete {without : Registry}
    (taken : registry.take handle = .ok (object, without)) :
    registry.perform (.delete handle) = (.ok .done, without) := by
  simp only [perform, delete, taken]
  rfl

/-- Objects stored and removed again one after the other, where so many were stored before. -/
def Operation.turnovers (total : Nat) : Nat → List Operation
  | 0 => []
  | rounds + 1 => .insert {} :: .delete (.ofNat (total + 1)) :: turnovers (total + 1) rounds

theorem turnovers_spare {total rounds : Nat} (small : handle.toNat ≤ total)
    (room : total + rounds ≤ 18446744073709551615) :
    ∀ operation ∈ Operation.turnovers total rounds,
      handle ∉ operation.names ∧ operation ≠ .clear := by
  induction rounds generalizing total with
  | zero => nofun
  | succ rounds ih =>
      have other : handle ≠ .ofNat (total + 1) := by
        rintro rfl
        rw [UInt64.toNat_ofNat_of_lt' (by simp only [UInt64.size]; omega)] at small
        omega
      intro operation member
      rcases List.mem_cons.1 member with rfl | member
      · exact ⟨nofun, nofun⟩
      rcases List.mem_cons.1 member with rfl | member
      · exact ⟨by simpa [Operation.names] using other, nofun⟩
      · exact ih (by omega) (by omega) operation member

theorem Issued.turnover {total : Nat} (before : Issued total registry)
    (room : total < 18446744073709551615) (unlimited : registry.config.maxLiveHandles = 0)
    (live : registry.entries[handle]? = some object) :
    let grown := (registry.perform (.insert {})).2
    let after := (grown.perform (.delete (.ofNat (total + 1)))).2
    Issued (total + 1) after ∧ after.config.maxLiveHandles = 0 ∧
      after.entries[handle]? = some object := by
  have roomy : ∃ stored, registry.insert (.data {}) = .ok stored :=
    insert_eq_ok_iff.2 (.inl unlimited)
  obtain ⟨⟨fresh, grown⟩, stored⟩ := roomy
  obtain ⟨number, further⟩ := before.insert room stored
  obtain rfl : fresh = .ofNat (total + 1) := by rw [← number, UInt64.ofNat_toNat]
  have found := (getElem?_entries_insert stored (.ofNat (total + 1))).2
  rw [if_pos rfl] at found
  obtain ⟨⟨gone, without⟩, taken⟩ := take_eq_ok_iff.2
    (mem_liveHandles_iff_mem.2 (mem_entries_of_live found))
  -- What is live has a smaller number.
  have other : UInt64.ofNat (total + 1) ≠ handle := by
    rintro rfl
    have := before.live _ (mem_entries_of_live live)
    omega
  have built : Parts.build {} = .ok (.data {}) := rfl
  simp only [perform_insert built stored, perform_delete taken]
  obtain ⟨same, fewer⟩ := take_shrinks taken
  refine ⟨further.shrink same fewer, ?_, ?_⟩
  · obtain ⟨-, -, rfl⟩ := insert_eq_ok stored
    obtain ⟨-, rfl⟩ := take_eq_ok taken
    exact unlimited
  · rw [getElem?_entries_take taken, if_neg other, (getElem?_entries_insert stored handle).2,
      if_neg other, live]

theorem Issued.turnovers {total : Nat} (before : Issued total registry) (rounds : Nat)
    (room : total + rounds ≤ 18446744073709551615)
    (unlimited : registry.config.maxLiveHandles = 0)
    (live : registry.entries[handle]? = some object) :
    let after := (registry.performAll (Operation.turnovers total rounds)).2
    Issued (total + rounds) after ∧ after.config.maxLiveHandles = 0 ∧
      after.entries[handle]? = some object := by
  induction rounds generalizing total registry with
  | zero => exact ⟨before, unlimited, live⟩
  | succ rounds ih =>
      obtain ⟨next, still, kept⟩ := before.turnover (by omega) unlimited live
      have rest := ih next (by omega) still kept
      rwa [Nat.add_assoc, Nat.add_comm 1] at rest

/-- When every number has been issued the next object comes to stand behind the first handle,
    whatever is there. -/
theorem Issued.insert_again (before : Issued 18446744073709551615 registry) {fresh : Handle}
    {grown : Registry} (stored : registry.insert object = .ok (fresh, grown)) :
    fresh = 1 ∧ grown.entries[(1 : Handle)]? = some object := by
  obtain ⟨rfl, placed⟩ := getElem?_entries_insert stored 1
  have again : registry.issue = 1 := by
    rw [issue, before.next]
    rfl
  rw [if_pos again] at placed
  exact ⟨again, placed⟩

/-- The first object of a registry, kept while the numbers are used up, makes way for the next
    object that is stored. -/
theorem first_object_overwritten {first last : Parts} {kept object : Object}
    (earlier : first.build = .ok kept) (later : last.build = .ok object) :
    let past := ((empty {}).performAll [.insert first]).2
    let present := (past.performAll
      (Operation.turnovers 1 18446744073709551614 ++ [.insert last])).2
    past.lookup 1 = .ok kept ∧ present.lookup 1 = .ok object := by
  have begun : ∃ stored, (empty {}).insert kept = .ok stored := insert_eq_ok_iff.2 (.inl rfl)
  obtain ⟨⟨fresh, past⟩, stored⟩ := begun
  obtain ⟨number, one⟩ := (Issued.empty {}).insert (by decide) stored
  obtain rfl : fresh = 1 := UInt64.toNat_inj.1 number
  have live := (getElem?_entries_insert stored 1).2
  rw [if_pos rfl] at live
  have room : past.config.maxLiveHandles = 0 := by
    obtain ⟨-, -, rfl⟩ := insert_eq_ok stored
    rfl
  have spent := one.turnovers 18446744073709551614 (by decide) room live
  -- So many operations are never carried out: all that is used of them is what they lead to.
  generalize Operation.turnovers 1 18446744073709551614 = rounds at spent ⊢
  obtain ⟨all, still, -⟩ := spent
  have ended : ∃ stored, Registry.insert _ object = .ok stored := insert_eq_ok_iff.2 (.inl still)
  obtain ⟨⟨fresh, grown⟩, again⟩ := ended
  obtain ⟨rfl, placed⟩ := all.insert_again again
  simp only [performAll_append, perform_insert earlier stored, perform_insert later again,
    performAll]
  exact ⟨lookup_eq_ok_iff.2 live, lookup_eq_ok_iff.2 placed⟩

end PayloadExchange.Registry
