import PayloadExchange.Proofs.Registry.Course
import PayloadExchange.Proofs.Registry.Issuing

/-! # Accounting for handles

The live handles of a registry are those that its course has issued and not withdrawn since, and
every way to ask for them tells the same. `Accounts` is the balance that each event keeps. A
handle that was withdrawn once is dead while the numbers last, since until then none is issued
twice.
-/

namespace PayloadExchange.Registry

namespace Event

def isInsertion : Event → Bool
  | issued _ => true
  | removed _ | cleared _ => false

def isRemoval : Event → Bool
  | removed _ => true
  | issued _ | cleared _ => false

/-- How many objects went in a clearing. -/
def clearedAway : Event → Nat
  | cleared count => count
  | issued _ | removed _ => 0

/-- The event takes the handle away, if it is there. -/
def Withdraws (handle : Handle) : Event → Prop
  | issued _ => False
  | removed gone => gone = handle
  | cleared _ => True

end Event

def insertions (events : List Event) : Nat := events.countP Event.isInsertion

def removals (events : List Event) : Nat := events.countP Event.isRemoval

def clearings : List Event → Nat
  | [] => 0
  | event :: events => event.clearedAway + clearings events

theorem insertions_append (events : List Event) (event : Event) :
    insertions (events ++ [event]) = insertions events + if event.isInsertion then 1 else 0 := by
  simp [insertions, List.countP_singleton]

theorem removals_append (events : List Event) (event : Event) :
    removals (events ++ [event]) = removals events + if event.isRemoval then 1 else 0 := by
  simp [removals, List.countP_singleton]

theorem clearings_append (events : List Event) (event : Event) :
    clearings (events ++ [event]) = clearings events + event.clearedAway := by
  induction events with
  | nil => simp [clearings]
  | cons first events ih => simp only [List.cons_append, clearings, ih, Nat.add_assoc]

/-- The handle was issued and nothing has withdrawn it since. -/
def Outstanding (events : List Event) (handle : Handle) : Prop :=
  ∃ before after, events = before ++ .issued handle :: after ∧
    ∀ event ∈ after, ¬ event.Withdraws handle

/-- The handle was issued and something has withdrawn it since. -/
def Retired (events : List Event) (handle : Handle) : Prop :=
  ∃ before after, events = before ++ .issued handle :: after ∧
    ∃ event ∈ after, event.Withdraws handle

/-- One more event comes at the very end, after an issue or as one. -/
theorem eq_append_issued_iff {events before after : List Event} {event : Event}
    {handle : Handle} :
    events ++ [event] = before ++ .issued handle :: after ↔
      (events = before ∧ event = .issued handle ∧ after = []) ∨
      ∃ front, after = front ++ [event] ∧ events = before ++ .issued handle :: front := by
  -- The issue is the last event itself, or the last event comes after it.
  rcases List.eq_nil_or_concat after with rfl | ⟨front, last, rfl⟩
  · simp
  · constructor
    · intro same
      right
      rw [List.concat_eq_append, ← List.cons_append, ← List.append_assoc] at same
      obtain ⟨whole, single⟩ := List.append_inj' same rfl
      obtain rfl := List.singleton_inj.1 single
      exact ⟨front, by rw [List.concat_eq_append], whole⟩
    · rintro (⟨-, -, empty⟩ | ⟨others, same, rfl⟩)
      · simp at empty
      · simp_all

theorem outstanding_append_iff {events : List Event} {event : Event} {handle : Handle} :
    Outstanding (events ++ [event]) handle ↔
      event = .issued handle ∨ Outstanding events handle ∧ ¬ event.Withdraws handle := by
  constructor
  · rintro ⟨before, after, shape, quiet⟩
    rcases eq_append_issued_iff.1 shape with ⟨-, same, -⟩ | ⟨front, rfl, whole⟩
    · exact .inl same
    · simp only [List.mem_append, List.mem_singleton] at quiet
      exact .inr ⟨⟨before, front, whole, fun event member => quiet event (.inl member)⟩,
        quiet event (.inr rfl)⟩
  · rintro (rfl | ⟨⟨before, after, rfl, quiet⟩, spared⟩)
    · exact ⟨events, [], rfl, by simp⟩
    · refine ⟨before, after ++ [event], by simp, ?_⟩
      simp only [List.mem_append, List.mem_singleton]
      rintro other (member | rfl)
      · exact quiet other member
      · exact spared

theorem retired_append_iff {events : List Event} {event : Event} {handle : Handle} :
    Retired (events ++ [event]) handle ↔
      Retired events handle ∨ .issued handle ∈ events ∧ event.Withdraws handle := by
  constructor
  · rintro ⟨before, after, shape, gone, member, withdraws⟩
    rcases eq_append_issued_iff.1 shape with ⟨-, -, rfl⟩ | ⟨front, rfl, rfl⟩
    · simp at member
    · rcases List.mem_append.1 member with earlier | last
      · exact .inl ⟨before, front, rfl, gone, earlier, withdraws⟩
      · obtain rfl := List.mem_singleton.1 last
        exact .inr ⟨by simp, withdraws⟩
  · rintro (⟨before, after, rfl, gone, member, withdraws⟩ | ⟨member, withdraws⟩)
    · exact ⟨before, after ++ [event], by simp, gone, by simp [member], withdraws⟩
    · obtain ⟨before, after, rfl⟩ := List.append_of_mem member
      exact ⟨before, after ++ [event], by simp, event, by simp, withdraws⟩

theorem Retired.issued {events : List Event} {handle : Handle} (retired : Retired events handle) :
    .issued handle ∈ events := by
  obtain ⟨before, after, rfl, -⟩ := retired
  simp

theorem Retired.append {events : List Event} {handle : Handle} (retired : Retired events handle)
    (more : List Event) : Retired (events ++ more) handle := by
  obtain ⟨before, after, rfl, gone, member, withdraws⟩ := retired
  exact ⟨before, after ++ more, by simp, gone, by simp [member], withdraws⟩

/-- What the events of a course tell about the registry at its end. -/
structure Accounts (events : List Event) (registry : Registry) : Prop where
  numbered : Issued (insertions events) registry
  /-- The numbers issued so far. -/
  range : ∀ handle, .issued handle ∈ events →
    0 < handle.toNat ∧ handle.toNat ≤ insertions events
  live : ∀ handle, handle ∈ registry.entries ↔ Outstanding events handle
  retired : ∀ handle, Retired events handle → handle ∉ registry.entries
  balance : registry.count + removals events + clearings events = insertions events

namespace Accounts

variable {events : List Event} {registry : Registry}

theorem empty (config : Config) : Accounts [] (.empty config) where
  numbered := .empty config
  range := by simp
  live := by simp [Registry.empty, Outstanding]
  retired := by simp [Retired]
  balance := rfl

theorem edited (before : Accounts events registry) {handle : Handle} {object : Object}
    (live : registry.entries[handle]? = some object) (changed : Object) :
    Accounts events { registry with entries := registry.entries.insert handle changed } := by
  have known := mem_entries_of_live live
  have same (key : Handle) : key ∈ registry.entries.insert handle changed
      ↔ key ∈ registry.entries := by
    rw [Std.ExtTreeMap.mem_insert, Std.LawfulEqCmp.compare_eq_iff_eq]
    exact ⟨fun found => found.elim (fun equal => equal ▸ known) id, .inr⟩
  refine ⟨before.numbered.shrink rfl fun key => (same key).1, before.range, ?_, ?_, ?_⟩
  · exact fun key => (same key).trans (before.live key)
  · exact fun key gone found => before.retired key gone ((same key).1 found)
  · simpa only [Registry.count, size_entries_edited live] using before.balance

theorem issued (before : Accounts events registry)
    (few : insertions events < 18446744073709551615) {object : Object} {fresh : Handle}
    {grown : Registry} (stored : registry.insert object = .ok (fresh, grown)) :
    Accounts (events ++ [.issued fresh]) grown := by
  obtain ⟨number, numbered⟩ := before.numbered.insert few stored
  have absent := before.numbered.absent number
  obtain ⟨-, -, rfl⟩ := insert_eq_ok stored
  have more : insertions (events ++ [.issued fresh]) = insertions events + 1 :=
    insertions_append events _
  refine ⟨more ▸ numbered, ?_, ?_, ?_, ?_⟩
  · intro handle member
    rw [more]
    rcases List.mem_append.1 member with earlier | last
    · have := before.range handle earlier
      omega
    · obtain rfl : handle = fresh := by simpa using last
      omega
  · intro key
    rw [outstanding_append_iff, ← before.live]
    simp [Event.Withdraws]
  · intro key gone found
    rcases retired_append_iff.1 gone with earlier | ⟨-, nothing⟩
    · simp only [Std.ExtTreeMap.mem_insert, Std.LawfulEqCmp.compare_eq_iff_eq] at found
      rcases found with rfl | old
      · -- What was withdrawn was issued, under a number that the fresh one exceeds.
        have := (before.range _ earlier.issued).2
        omega
      · exact before.retired key earlier old
    · exact nothing
  · have size : (registry.entries.insert fresh object).size = registry.entries.size + 1 := by
      simp [Std.ExtTreeMap.size_insert, absent]
    have balance := before.balance
    simp only [Registry.count, more, removals_append, clearings_append, Event.isRemoval,
      Event.clearedAway, Bool.false_eq_true, if_false] at balance ⊢
    omega

/-- An event that issues nothing and leaves just what it does not withdraw. -/
theorem withdrawn (before : Accounts events registry) {event : Event} {smaller : Registry}
    (silent : event.isInsertion = false) (same : smaller.next = registry.next)
    (left : ∀ key, key ∈ smaller.entries ↔ key ∈ registry.entries ∧ ¬ event.Withdraws key)
    (balance : smaller.count + removals (events ++ [event]) + clearings (events ++ [event])
      = insertions events) :
    Accounts (events ++ [event]) smaller := by
  have total : insertions (events ++ [event]) = insertions events := by
    rw [insertions_append, silent]
    rfl
  -- The last event is none of the issues that `Outstanding` and `range` speak of.
  have quiet (key : Handle) : event ≠ .issued key := by
    rintro rfl
    cases silent
  refine ⟨?_, ?_, ?_, ?_, total.symm ▸ balance⟩
  · rw [total]
    exact before.numbered.shrink same fun key found => ((left key).1 found).1
  · intro key member
    rw [total]
    rcases List.mem_append.1 member with earlier | last
    · exact before.range key earlier
    · exact absurd (List.mem_singleton.1 last).symm (quiet key)
  · intro key
    rw [left, before.live, outstanding_append_iff]
    exact ⟨.inr, fun known => known.resolve_left (quiet key)⟩
  · intro key gone found
    obtain ⟨old, spared⟩ := (left key).1 found
    rcases retired_append_iff.1 gone with earlier | ⟨-, withdraws⟩
    · exact before.retired key earlier old
    · exact spared withdraws

theorem removed (before : Accounts events registry) {handle : Handle} {object : Object}
    {without : Registry} (taken : registry.take handle = .ok (object, without)) :
    Accounts (events ++ [.removed handle]) without := by
  obtain ⟨live, rfl⟩ := take_eq_ok taken
  refine before.withdrawn rfl rfl ?_ ?_
  · intro key
    simp only [Std.ExtTreeMap.mem_erase, ne_eq, Std.LawfulEqCmp.compare_eq_iff_eq,
      Event.Withdraws]
    exact and_comm
  · have size := size_entries_erase live
    have balance := before.balance
    simp only [Registry.count, removals_append, clearings_append, Event.isRemoval,
      Event.clearedAway, if_true] at balance ⊢
    omega

theorem cleared (before : Accounts events registry) :
    Accounts (events ++ [.cleared registry.count]) registry.clear.2 := by
  refine before.withdrawn rfl rfl ?_ ?_
  · intro key
    simp [clear, Event.Withdraws]
  · have balance := before.balance
    have size : registry.clear.2.count = 0 := Std.ExtTreeMap.size_empty
    simp only [size, removals_append, clearings_append, Event.isRemoval, Event.clearedAway,
      Bool.false_eq_true, if_false]
    omega

end Accounts

theorem Course.accounts {config : Config} {events : List Event} {registry : Registry}
    (course : Course (.empty config) events registry)
    (few : insertions events ≤ 18446744073709551615) : Accounts events registry := by
  -- A shorter course has no more insertions, so the bound is at hand for it too.
  induction course with
  | start => exact .empty config
  | edited payload _ live ih => exact (ih few).edited live _
  | issued _ stored ih =>
      rw [insertions_append] at few
      simp only [Event.isInsertion, if_true] at few
      exact (ih (by omega)).issued (by omega) stored
  | removed _ taken ih =>
      rw [insertions_append] at few
      exact (ih few).removed taken
  | cleared _ ih =>
      rw [insertions_append] at few
      exact (ih few).cleared

section Observers

variable {registry : Registry} {handle : Handle}

theorem mem_liveHandles_iff_mem : handle ∈ registry.liveHandles ↔ handle ∈ registry.entries :=
  Std.ExtTreeMap.mem_keys

theorem liveHandles_increasing (registry : Registry) :
    registry.liveHandles.Pairwise (· < ·) :=
  registry.liveHandles_ascending.imp Std.compare_eq_lt.1

theorem kindOf_ne_invalid_iff :
    registry.kindOf handle ≠ .invalid ↔ handle ∈ registry.liveHandles := by
  rw [mem_liveHandles_iff_mem, Std.ExtTreeMap.mem_iff_isSome_getElem?, kindOf]
  cases registry.entries[handle]? with
  | none => simp
  | some object => cases object <;> simp [Object.kind]

theorem take_eq_ok_iff :
    (∃ taken, registry.take handle = .ok taken) ↔ handle ∈ registry.liveHandles := by
  rw [mem_liveHandles_iff_mem, Std.ExtTreeMap.mem_iff_isSome_getElem?, take]
  cases registry.entries[handle]? <;> simp

theorem leakCheck_eq_ok_iff : registry.leakCheck = .ok () ↔ registry.liveHandles = [] := by
  unfold leakCheck
  split
  · next empty => simp [empty]
  · next live => simpa using live

theorem leakCheck_eq_error (live : registry.liveHandles ≠ []) :
    registry.leakCheck = .error (.stillLive registry.liveHandles) := by
  unfold leakCheck
  split
  · next empty => exact absurd empty live
  · rfl

end Observers

/-- Every way to ask a registry what is live agrees with these events. -/
structure Audited (events : List Event) (registry : Registry) : Prop where
  increasing : registry.liveHandles.Pairwise (· < ·)
  live : ∀ handle, handle ∈ registry.liveHandles ↔ Outstanding events handle
  size : registry.count = registry.liveHandles.length
  balance : registry.count + removals events + clearings events = insertions events
  isEmpty : (registry.perform .isEmpty).1 = .ok (.truth true) ↔ registry.count = 0
  kind : ∀ handle, registry.kindOf handle ≠ .invalid ↔ handle ∈ registry.liveHandles
  read : ∀ handle,
    (∃ object, registry.lookup handle = .ok object) ↔ handle ∈ registry.liveHandles
  take : ∀ handle, (∃ taken, registry.take handle = .ok taken) ↔ handle ∈ registry.liveHandles
  cleared : registry.clear.1 = registry.count
  empties : registry.clear.2.liveHandles = []
  noLeak : registry.leakCheck = .ok () ↔ registry.liveHandles = []
  leak : registry.liveHandles ≠ [] →
    ∃ fault, registry.leakCheck = .error fault ∧ fault.report =
      ⟨.invalidOperation, toString registry.count ++ " handle(s) still live: "
        ++ ", ".intercalate (registry.liveHandles.map fun handle => toString handle.toNat)⟩

/-- After any run, the live handles are those that it issued and has not withdrawn, and all ways
    to ask for them and to count them agree. -/
theorem performAll_audited (config : Config) (operations : List Operation)
    (few : insertions (history operations ((empty config).performAll operations).1)
      ≤ 18446744073709551615) :
    Audited (history operations ((empty config).performAll operations).1)
      ((empty config).performAll operations).2 := by
  have accounts := (Course.start.performAll operations).accounts few
  generalize ((empty config).performAll operations).2 = registry at accounts
  refine {
    increasing := registry.liveHandles_increasing
    live := fun handle => mem_liveHandles_iff_mem.trans (accounts.live handle)
    size := registry.length_liveHandles.symm
    balance := accounts.balance
    isEmpty := by simp [perform, reading]
    kind := fun handle => kindOf_ne_invalid_iff
    read := fun handle => mem_liveHandles.symm
    take := fun handle => take_eq_ok_iff
    cleared := rfl
    empties := Std.ExtTreeMap.keys_eq_nil_iff.2 rfl
    noLeak := leakCheck_eq_ok_iff
    leak := ?_ }
  intro live
  refine ⟨_, leakCheck_eq_error live, ?_⟩
  rw [← registry.length_liveHandles]
  rfl

/-- A removal, a move, a clearing and two more insertions: the last two handles are live. -/
theorem audit_after_clearing :
    let operations : List Operation :=
      [.insert {}, .insert { names := some ("a", "b") }, .delete 1, .delete 1, .move 2, .clear,
        .insert {}, .insert {}]
    let run := (empty ⟨2⟩).performAll operations
    let events := history operations run.1
    insertions events ≤ 18446744073709551615 ∧ Audited events run.2 ∧
      events = [.issued 1, .issued 2, .removed 1, .removed 2, .issued 3, .cleared 1, .issued 4,
        .issued 5] ∧
      run.2.liveHandles = [4, 5] ∧
      (Fault.stillLive run.2.liveHandles).report.detail = "2 handle(s) still live: 4, 5" := by
  intro operations run events
  have few : insertions events ≤ 18446744073709551615 := by decide +kernel
  exact ⟨few, performAll_audited ⟨2⟩ operations few, by decide +kernel, by decide +kernel,
    by decide +kernel⟩

end PayloadExchange.Registry
