import PayloadExchange.Registry.Operation

/-! # Handles do not disturb one another

An operation on objects looks at what stands behind the handles that it names, writes there, and
has no part in the rest of the registry. Two of them that name no handle in common can therefore
change places: `Confined` is what each of them keeps to, and `Confined.commute` does the rest.
-/

namespace PayloadExchange.Registry

/-- The operation works on the objects that it names, and issues no handle. -/
def Operation.isLocal : Operation → Bool
  | create _ | insert _ | move _ | clear | count | isEmpty | config | leakCheck => false
  | kind _ | read _ | dump _ | delete _ | take _ | assign .. | interface _ | operation _
  | commandPayload _ | step .. | commandStep .. | batch .. | equal .. => true

/-- Two registries store the same behind these handles. -/
def Agree (handles : List Handle) (a b : Registry) : Prop :=
  ∀ handle ∈ handles, a.entries[handle]? = b.entries[handle]?

/-- The work depends on what stands behind these handles only, and changes nothing else. -/
structure Confined {α : Type} (handles : List Handle) (work : Registry → α × Registry) :
    Prop where
  answer : ∀ {a b}, Agree handles a b → (work a).1 = (work b).1
  inside : ∀ {a b}, Agree handles a b → Agree handles (work a).2 (work b).2
  outside : ∀ registry key, key ∉ handles →
    (work registry).2.entries[key]? = registry.entries[key]?
  settings : ∀ registry, (work registry).2.config = registry.config
  counter : ∀ registry, (work registry).2.next = registry.next

theorem eq_of_entries {a b : Registry} (settings : a.config = b.config)
    (counter : a.next = b.next) (same : ∀ key : Handle, a.entries[key]? = b.entries[key]?) :
    a = b := by
  have entries : a.entries = b.entries := Std.ExtTreeMap.ext_getElem? same
  cases a
  cases b
  simp_all

theorem lookup_congr {a b : Registry} {handle : Handle}
    (same : a.entries[handle]? = b.entries[handle]?) : a.lookup handle = b.lookup handle := by
  rw [lookup, lookup, same]

theorem changing_take (registry : Registry) (handle : Handle) (answer : Object → Answer) :
    (registry.changing do
      let (object, without) ← registry.take handle
      return (answer object, without)) =
      match registry.entries[handle]? with
      | some object =>
          (.ok (answer object), { registry with entries := registry.entries.erase handle })
      | none => (.error (.deadHandle handle), registry) := by
  unfold take
  cases registry.entries[handle]? <;> rfl

theorem getElem?_changing_take (registry : Registry) (handle key : Handle)
    (answer : Object → Answer) :
    (registry.changing do
      let (object, without) ← registry.take handle
      return (answer object, without)).2.entries[key]?
      = if handle = key then none else registry.entries[key]? := by
  rw [changing_take]
  cases live : registry.entries[handle]? with
  | some object => simp [Std.ExtTreeMap.getElem?_erase]
  | none =>
      by_cases same : handle = key
      · rw [if_pos same, ← same]
        exact live
      · rw [if_neg same]

/-- What a copy does with the object that it found. -/
def assignFound (target : Handle) (found : Except Fault Object) (registry : Registry) :
    Except Fault Unit × Registry :=
  match found with
  | .ok object => registry.editPayload target fun _ => (.ok (), object.payload)
  | .error fault => (.error fault, registry)

namespace Confined

variable {α β : Type} {handles : List Handle}

/-- Work on disjoint handles may be done in either order. -/
theorem commute {others : List Handle} {first : Registry → α × Registry}
    {second : Registry → β × Registry} (ours : Confined handles first)
    (theirs : Confined others second) (apart : ∀ handle ∈ handles, handle ∉ others)
    (registry : Registry) :
    (second (first registry).2).1 = (second registry).1 ∧
      (first (second registry).2).1 = (first registry).1 ∧
      (second (first registry).2).2 = (first (second registry).2).2 := by
  have apart' : ∀ handle ∈ others, handle ∉ handles :=
    fun handle member own => apart handle own member
  have seen : Agree handles (second registry).2 registry :=
    fun handle member => theirs.outside registry handle (apart handle member)
  have seen' : Agree others (first registry).2 registry :=
    fun handle member => ours.outside registry handle (apart' handle member)
  -- Neither finds a trace of the other, so each answers as if it came first.
  refine ⟨theirs.answer seen', ours.answer seen, eq_of_entries ?_ ?_ ?_⟩
  · rw [theirs.settings, ours.settings, ours.settings, theirs.settings]
  · rw [theirs.counter, ours.counter, ours.counter, theirs.counter]
  · intro key
    -- What ends up behind a key is the work of the one that names it, if either does.
    by_cases own : key ∈ handles
    · rw [theirs.outside _ key (apart key own)]
      exact (ours.inside seen key own).symm
    · rw [ours.outside _ key own]
      by_cases other : key ∈ others
      · exact theirs.inside seen' key other
      · rw [theirs.outside _ key other, theirs.outside _ key other, ours.outside _ key own]

theorem reading {look : Registry → α}
    (determined : ∀ {a b}, Agree handles a b → look a = look b) :
    Confined handles fun registry => (look registry, registry) where
  answer := determined
  inside := fun same => same
  outside := fun _ _ _ => rfl
  settings := fun _ => rfl
  counter := fun _ => rfl

theorem map {work : Registry → α × Registry} (confined : Confined handles work) (f : α → β) :
    Confined handles fun registry => (f (work registry).1, (work registry).2) where
  answer := fun same => congrArg f (confined.answer same)
  inside := confined.inside
  outside := confined.outside
  settings := confined.settings
  counter := confined.counter

theorem lookup (handle : Handle) (next : Except Fault Object → Registry → α × Registry)
    (each : ∀ found, Confined handles (next found)) :
    Confined (handle :: handles) fun registry => next (registry.lookup handle) registry := by
  have found {a b : Registry} (same : Agree (handle :: handles) a b) :
      a.lookup handle = b.lookup handle := lookup_congr (same handle List.mem_cons_self)
  have rest {a b : Registry} (same : Agree (handle :: handles) a b) : Agree handles a b :=
    fun key member => same key (List.mem_cons_of_mem handle member)
  refine ⟨?_, ?_, ?_, fun _ => (each _).settings _, fun _ => (each _).counter _⟩
  · intro a b same
    simp only [found same]
    exact (each _).answer (rest same)
  · intro a b same key member
    -- The handle of the lookup may be written to later only if it is named once more.
    by_cases own : key ∈ handles
    · simp only [found same]
      exact (each _).inside (rest same) key own
    · simp only [(each _).outside _ key own]
      exact same key member
  · intro registry key absent
    exact (each _).outside registry key fun member => absent (List.mem_cons_of_mem handle member)

theorem single {handle : Handle} {work : Registry → α × Registry} (answer : Option Object → α)
    (update : Option Object → Option Object)
    (answers : ∀ registry, (work registry).1 = answer registry.entries[handle]?)
    (entries : ∀ registry key, (work registry).2.entries[key]?
      = if handle = key then update registry.entries[handle]? else registry.entries[key]?)
    (settings : ∀ registry, (work registry).2.config = registry.config)
    (counter : ∀ registry, (work registry).2.next = registry.next) :
    Confined [handle] work := by
  refine ⟨?_, ?_, ?_, settings, counter⟩
  · intro a b same
    rw [answers, answers, same handle List.mem_cons_self]
  · intro a b same key member
    rw [entries, entries, same handle List.mem_cons_self, same key member]
  · intro registry key absent
    rw [entries, if_neg fun equal => absent (List.mem_singleton.2 equal.symm)]

theorem edit (handle : Handle) (change : Object → Except Fault α × Object) :
    Confined [handle] fun registry => registry.edit handle change := by
  refine single
    (fun
      | some object => (change object).1
      | none => .error (.deadHandle handle))
    (Option.map fun object => (change object).2) ?_
    (fun registry key => getElem?_entries_edit registry handle key change) ?_ ?_
  all_goals
    intro registry
    unfold Registry.edit
    cases registry.entries[handle]? <;> rfl

theorem take (handle : Handle) (answer : Object → Answer) :
    Confined [handle] fun registry => registry.changing do
      let (object, without) ← registry.take handle
      return (answer object, without) := by
  refine single
    (fun
      | some object => .ok (answer object)
      | none => .error (.deadHandle handle))
    (fun _ => none) ?_ (fun registry key => getElem?_changing_take registry handle key answer) ?_ ?_
  all_goals
    intro registry
    rw [changing_take]
    cases registry.entries[handle]? <;> rfl

theorem assign (target source : Handle) :
    Confined [source, target] fun registry => registry.assign target source := by
  apply lookup source (assignFound target)
  intro found
  cases found with
  | ok object => exact edit target (·.edit fun _ => (.ok (), object.payload))
  | error fault => exact reading fun _ => rfl

end Confined

theorem Operation.confined {operation : Operation} (isLocal : operation.isLocal = true) :
    Confined operation.names fun registry => registry.perform operation := by
  have own {handle : Handle} {a b : Registry} (same : Agree [handle] a b) :
      a.lookup handle = b.lookup handle := lookup_congr (same handle List.mem_cons_self)
  cases operation with
  | kind handle =>
      apply Confined.reading
      intro a b same
      rw [kindOf, kindOf, same handle List.mem_cons_self]
  | read handle | interface handle | operation handle | commandPayload handle =>
      apply Confined.reading
      intro a b same
      simp only [lookupCommand, own same]
  | dump handle =>
      apply Confined.reading
      intro a b same
      simp only [Registry.dump, own same]
  | equal first second =>
      apply Confined.reading
      intro a b same
      have left : a.lookup first = b.lookup first := lookup_congr (same first (by simp [names]))
      have right : a.lookup second = b.lookup second := lookup_congr (same second (by simp [names]))
      simp only [left, right]
  | take handle => exact .take handle .object
  | delete handle =>
      -- A deletion is a removal that hands nothing over.
      have same (registry : Registry) :
          registry.perform (.delete handle) = registry.changing do
            let (_, without) ← registry.take handle
            return (.done, without) := by
        simp only [perform, Registry.delete]
        cases registry.take handle <;> rfl
      simp only [same]
      exact .take handle fun _ => .done
  | assign target source => exact (Confined.assign target source).map _
  | step handle step =>
      exact (Confined.edit handle (·.edit (·.perform step))).map (Answer.step <$> ·)
  | batch handle steps =>
      exact (Confined.edit handle (·.edit (·.performAll steps))).map (Answer.batch <$> ·)
  | commandStep handle step =>
      exact (Confined.edit handle (·.editCommand (·.perform step))).map (Answer.step <$> ·)
  | create | insert | move | clear | count | isEmpty | config | leakCheck => cases isLocal

/-- An operation on objects leaves alone what it does not name, and a copy leaves alone where it
    copies from. With another that names none of the same handles it may change places: both
    answer as before, and the registry ends up the same. -/
theorem perform_isolated (registry : Registry) (first : Operation)
    (ofFirst : first.isLocal = true) :
    (∀ key, key ∉ first.names →
      (registry.perform first).2.entries[key]? = registry.entries[key]?) ∧
    (∀ target source, first = .assign target source → target ≠ source →
      (registry.perform first).2.entries[source]? = registry.entries[source]?) ∧
    ∀ second : Operation, second.isLocal = true →
      (∀ handle ∈ first.names, handle ∉ second.names) →
      let afterFirst := (registry.perform first).2
      let afterSecond := (registry.perform second).2
      (afterFirst.perform second).1 = (registry.perform second).1 ∧
      (afterSecond.perform first).1 = (registry.perform first).1 ∧
      (afterFirst.perform second).2 = (afterSecond.perform first).2 := by
  have confined := Operation.confined ofFirst
  refine ⟨confined.outside registry, ?_, ?_⟩
  · -- A copy names its source too, so that it stays as it is needs the copy opened.
    rintro target source rfl apart
    cases found : registry.lookup source with
    | ok object =>
        simp only [perform, assign, found, editPayload, getElem?_entries_edit, if_neg apart]
    | error fault => simp only [perform, assign, found]
  · intro second ofSecond apart
    exact confined.commute (Operation.confined ofSecond) apart registry

/-- A copy between two objects and the removal of a third. -/
theorem copy_and_removal_exchange :
    let registry := ((empty {}).performAll
      [.insert { args := [[7]] }, .insert { names := some ("a", "b") }, .insert {}]).2
    let copy : Operation := .assign 2 1
    let removal : Operation := .delete 3
    copy.isLocal = true ∧ removal.isLocal = true ∧
      (∀ handle ∈ copy.names, handle ∉ removal.names) ∧
      ((registry.perform copy).2.perform removal).2
        = ((registry.perform removal).2.perform copy).2 ∧
      ((registry.perform copy).2.perform removal).2.liveHandles = [1, 2] ∧
      (registry.perform copy).2.entries[(1 : Handle)]? = registry.entries[(1 : Handle)]? := by
  intro registry copy removal
  have apart : ∀ handle ∈ copy.names, handle ∉ removal.names := by
    simp [copy, removal, Operation.names]
  obtain ⟨-, source, exchange⟩ := perform_isolated registry copy rfl
  exact ⟨rfl, rfl, apart, (exchange removal rfl apart).2.2, by decide +kernel,
    source 2 1 rfl (by decide)⟩

end PayloadExchange.Registry
