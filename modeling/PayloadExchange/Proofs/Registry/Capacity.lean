import PayloadExchange.Proofs.Registry.Course

/-! # The limit on live objects

A registry with a limit is never beyond it. It refuses an insertion only where the limit is
reached, and whatever takes an object out of it makes room for the next one. Without a limit
there is always room.
-/

namespace PayloadExchange.Registry

variable {start registry : Registry} {events : List Event}

theorem isFull_eq_false_iff : registry.isFull = false ↔
    registry.config.maxLiveHandles = 0 ∨
      registry.count < registry.config.maxLiveHandles.toNat := by
  by_cases unlimited : registry.config.maxLiveHandles = 0 <;> simp [isFull, unlimited]

theorem insert_eq_ok_iff {object : Object} :
    (∃ stored, registry.insert object = .ok stored) ↔
      registry.config.maxLiveHandles = 0 ∨
        registry.count < registry.config.maxLiveHandles.toNat := by
  rw [← isFull_eq_false_iff]
  constructor
  · rintro ⟨stored, inserted⟩
    exact (insert_eq_ok inserted).1
  · intro room
    cases inserted : registry.insert object with
    | ok stored => exact ⟨stored, rfl⟩
    | error fault =>
        have full := (insert_eq_error inserted).1
        rw [room] at full
        cases full

/-- The limit is kept. -/
def Within (registry : Registry) : Prop :=
  registry.config.maxLiveHandles ≠ 0 →
    registry.count ≤ registry.config.maxLiveHandles.toNat

theorem Course.config_eq (course : Course start events registry) :
    registry.config = start.config := by
  induction course with
  | start => rfl
  | edited _ _ _ ih | cleared _ ih => exact ih
  | issued _ stored ih =>
      obtain ⟨-, -, rfl⟩ := insert_eq_ok stored
      exact ih
  | removed _ taken ih =>
      obtain ⟨-, rfl⟩ := take_eq_ok taken
      exact ih

theorem Course.within (course : Course start events registry) (before : start.Within) :
    registry.Within := by
  induction course with
  | start => exact before
  | edited payload _ live ih =>
      intro limited
      rw [count, size_entries_edited live]
      exact ih limited
  | @issued events registry object fresh grown _ stored ih =>
      obtain ⟨free, -, rfl⟩ := insert_eq_ok stored
      intro limited
      -- There was room for one more, and the insertion adds at most one.
      have room := (isFull_eq_false_iff.1 free).resolve_left limited
      exact Nat.le_trans Std.ExtTreeMap.size_insert_le room
  | removed _ taken ih =>
      obtain ⟨-, rfl⟩ := take_eq_ok taken
      exact fun limited => Nat.le_trans Std.ExtTreeMap.size_erase_le (ih limited)
  | cleared _ ih => exact fun _ => Nat.zero_le _

/-- The next insertion succeeds, whatever it stores and whatever comes before it. -/
def HasRoom (registry : Registry) : Prop :=
  ∀ events later, Course registry events later → (∀ fresh, .issued fresh ∉ events) →
    ∀ object, ∃ stored, later.insert object = .ok stored

theorem Course.count_le (course : Course start events registry)
    (none : ∀ fresh, .issued fresh ∉ events) : registry.count ≤ start.count := by
  induction course with
  | start => exact Nat.le_refl _
  | edited payload _ live ih =>
      rw [count, size_entries_edited live]
      exact ih none
  | @issued events registry object fresh grown _ stored ih => exact absurd (by simp) (none fresh)
  | removed _ taken ih =>
      obtain ⟨-, rfl⟩ := take_eq_ok taken
      have fewer := ih fun fresh member => none fresh (List.mem_append_left _ member)
      exact Nat.le_trans Std.ExtTreeMap.size_erase_le fewer
  | cleared _ ih => exact Nat.zero_le _

theorem hasRoom_of_lt (room : registry.config.maxLiveHandles ≠ 0 →
    registry.count < registry.config.maxLiveHandles.toNat) : registry.HasRoom := by
  intro events later course none object
  rw [insert_eq_ok_iff, course.config_eq]
  by_cases unlimited : registry.config.maxLiveHandles = 0
  · exact .inl unlimited
  · exact .inr (Nat.lt_of_le_of_lt (course.count_le none) (room unlimited))

theorem Within.hasRoom_of_take (within : registry.Within) {handle : Handle} {object : Object}
    {without : Registry} (taken : registry.take handle = .ok (object, without)) :
    without.HasRoom := by
  obtain ⟨live, rfl⟩ := take_eq_ok taken
  apply hasRoom_of_lt
  intro limited
  exact Nat.lt_of_lt_of_le (Nat.lt_of_succ_le (Nat.le_of_eq (size_entries_erase live)))
    (within limited)

theorem Within.hasRoom_of_delete (within : registry.Within) {handle : Handle}
    {without : Registry} (deleted : registry.delete handle = .ok without) :
    without.HasRoom := by
  obtain ⟨object, taken⟩ := delete_eq_ok deleted
  exact within.hasRoom_of_take taken

theorem hasRoom_clear (registry : Registry) : registry.clear.2.HasRoom := by
  apply hasRoom_of_lt
  intro limited
  -- A limit is not zero, so the empty registry is below it.
  rw [show registry.clear.2.count = 0 from Std.ExtTreeMap.size_empty]
  exact Nat.pos_of_ne_zero fun none => limited (UInt32.toNat_inj.1 none)

/-- The operation is to store this object. -/
def Operation.Builds (object : Object) : Operation → Prop
  | create draft => draft.build = .ok object
  | insert parts => parts.build = .ok object
  | _ => False

/-- What a limit on live objects, or none, means for a registry. -/
structure Capped (limit : UInt32) (registry : Registry) : Prop where
  within : limit ≠ 0 → registry.count ≤ limit.toNat
  admits : ∀ object,
    (∃ stored, registry.insert object = .ok stored) ↔ limit = 0 ∨ registry.count < limit.toNat
  refuses : ∀ object fault, registry.insert object = .error fault →
    fault.report =
      ⟨.invalidOperation, "handle table is full (" ++ toString limit.toNat ++ " live handles)"⟩
  /-- A refusal changes nothing. -/
  unchanged : ∀ (operation : Operation) object fault, operation.Builds object →
    registry.insert object = .error fault → registry.perform operation = (.error fault, registry)
  afterTake : ∀ handle object without,
    registry.take handle = .ok (object, without) → without.HasRoom
  afterDelete : ∀ handle without, registry.delete handle = .ok without → without.HasRoom
  afterClear : registry.clear.2.HasRoom

theorem Within.capped (within : registry.Within) :
    Capped registry.config.maxLiveHandles registry where
  within := within
  admits := fun object => insert_eq_ok_iff
  refuses := by
    intro object fault refused
    rw [(insert_eq_error refused).2]
    rfl
  unchanged := by
    intro operation object fault builds refused
    cases operation with
    | create draft | insert parts =>
        simp only [Operation.Builds] at builds
        simp [perform, changing, builds, refused, bind, Except.bind]
    | _ => cases builds
  afterTake := fun _ _ _ => within.hasRoom_of_take
  afterDelete := fun _ _ => within.hasRoom_of_delete
  afterClear := registry.hasRoom_clear

theorem Course.capped {config : Config} (course : Course (.empty config) events registry) :
    Capped config.maxLiveHandles registry := by
  have within : registry.Within := course.within fun _ => Nat.zero_le _
  rw [show config = registry.config from course.config_eq.symm]
  exact within.capped

end PayloadExchange.Registry
