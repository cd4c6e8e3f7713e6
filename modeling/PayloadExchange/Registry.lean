import PayloadExchange.Environment
import PayloadExchange.Object
import Std.Data.ExtTreeMap

/-! # The registry

The registry owns the objects and names them by handles. Handles are issued in ascending
order from one, and a number is consumed only by an insertion that succeeds. The numbers are those
of a 64-bit word: behind the last one they start again at one, and an insertion overwrites what is
still stored under its number.
-/

namespace PayloadExchange

/-- The stored objects under their handles. -/
structure Registry where
  config : Config := {}
  /-- The number to issue next; zero is passed over. -/
  next : Handle := 1
  entries : Std.ExtTreeMap Handle Object := ∅

namespace Registry

def empty (config : Config) : Registry := { config }

def lookup (registry : Registry) (handle : Handle) : Except Fault Object :=
  match registry.entries[handle]? with
  | some object => .ok object
  | none => .error (.deadHandle handle)

def kindOf (registry : Registry) (handle : Handle) : Kind :=
  match registry.entries[handle]? with
  | some object => object.kind
  | none => .invalid

def lookupCommand (registry : Registry) (handle : Handle) : Except Fault Command :=
  registry.lookup handle >>= Object.asCommand

def dump (registry : Registry) (handle : Handle) : Except Fault String :=
  Object.dump <$> registry.lookup handle

def count (registry : Registry) : Nat := registry.entries.size

def liveHandles (registry : Registry) : List Handle := registry.entries.keys

/-- Fails unless nothing is live. -/
def leakCheck (registry : Registry) : Except Fault Unit :=
  match registry.liveHandles with
  | [] => .ok ()
  | live => .error (.stillLive live)

def isFull (registry : Registry) : Bool :=
  registry.config.maxLiveHandles ≠ 0
    && registry.config.maxLiveHandles.toNat ≤ registry.count

/-- The handle that the next insertion issues. -/
def issue (registry : Registry) : Handle := if registry.next = 0 then 1 else registry.next

/-- Stores an object under the handle that is next, over whatever is there. -/
def insert (registry : Registry) (object : Object) : Except Fault (Handle × Registry) :=
  if registry.isFull then .error (.registryFull registry.config.maxLiveHandles)
  else
    let handle := registry.issue
    .ok (handle,
      { registry with next := handle + 1, entries := registry.entries.insert handle object })

/-- Edits the object behind a handle. What the edit leaves is stored also if it fails. -/
def edit {α : Type} (registry : Registry) (handle : Handle)
    (change : Object → Except Fault α × Object) : Except Fault α × Registry :=
  match registry.entries[handle]? with
  | some object =>
      let (result, changed) := change object
      (result, { registry with entries := registry.entries.insert handle changed })
  | none => (.error (.deadHandle handle), registry)

def editPayload {α : Type} (registry : Registry) (handle : Handle)
    (change : Payload → Except Fault α × Payload) : Except Fault α × Registry :=
  registry.edit handle (·.edit change)

/-- Replaces the payload behind a handle by that behind another, which is looked up first. -/
def assign (registry : Registry) (target source : Handle) : Except Fault Unit × Registry :=
  match registry.lookup source with
  | .ok object => registry.editPayload target fun _ => (.ok (), object.payload)
  | .error fault => (.error fault, registry)

def take (registry : Registry) (handle : Handle) : Except Fault (Object × Registry) :=
  match registry.entries[handle]? with
  | some object => .ok (object, { registry with entries := registry.entries.erase handle })
  | none => .error (.deadHandle handle)

def delete (registry : Registry) (handle : Handle) : Except Fault Registry :=
  Prod.snd <$> registry.take handle

/-- Removes every object and tells how many there were. -/
def clear (registry : Registry) : Nat × Registry :=
  (registry.count, { registry with entries := ∅ })

theorem lookup_eq_ok_iff {registry : Registry} {handle : Handle} {object : Object} :
    registry.lookup handle = .ok object ↔ registry.entries[handle]? = some object := by
  unfold lookup
  cases registry.entries[handle]? with
  | none => simp
  | some found => simp

theorem lookup_eq_error_iff {registry : Registry} {handle : Handle} {fault : Fault} :
    registry.lookup handle = .error fault
      ↔ registry.entries[handle]? = none ∧ fault = .deadHandle handle := by
  unfold lookup
  cases registry.entries[handle]? with
  | none => simp [eq_comm]
  | some object => simp

theorem mem_liveHandles {registry : Registry} {handle : Handle} :
    handle ∈ registry.liveHandles ↔ ∃ object, registry.lookup handle = .ok object := by
  simp only [liveHandles, lookup_eq_ok_iff, Std.ExtTreeMap.mem_keys,
    Std.ExtTreeMap.mem_iff_isSome_getElem?, Option.isSome_iff_exists]

theorem liveHandles_ascending (registry : Registry) :
    registry.liveHandles.Pairwise fun a b => compare a b = .lt :=
  Std.ExtTreeMap.ordered_keys

theorem length_liveHandles (registry : Registry) :
    registry.liveHandles.length = registry.count :=
  Std.ExtTreeMap.length_keys

theorem insert_of_stored {α : Type} {stored : Std.ExtTreeMap Handle α} {key : Handle} {value : α}
    (found : stored[key]? = some value) : stored.insert key value = stored := by
  apply Std.ExtTreeMap.ext_getElem?
  intro other
  rw [Std.ExtTreeMap.getElem?_insert]
  split
  · next equal =>
      obtain rfl := Std.LawfulEqCmp.eq_of_compare equal
      exact found.symm
  · rfl

theorem entries_insert_self {registry : Registry} {handle : Handle} {object : Object}
    (live : registry.entries[handle]? = some object) :
    { registry with entries := registry.entries.insert handle object } = registry := by
  rw [insert_of_stored live]

/-- An edit reaches the object behind its handle and no other. -/
theorem getElem?_entries_edit {α : Type} (registry : Registry) (handle key : Handle)
    (change : Object → Except Fault α × Object) :
    (registry.edit handle change).2.entries[key]?
      = if handle = key then registry.entries[handle]?.map fun object => (change object).2
        else registry.entries[key]? := by
  unfold edit
  split <;> by_cases same : handle = key <;> simp_all [Std.ExtTreeMap.getElem?_insert]

theorem getElem?_entries_take {registry without : Registry} {handle : Handle} {object : Object}
    (h : registry.take handle = .ok (object, without)) (key : Handle) :
    without.entries[key]? = if handle = key then none else registry.entries[key]? := by
  unfold take at h
  split at h
  · simp only [Except.ok.injEq, Prod.mk.injEq] at h
    obtain ⟨_, rfl⟩ := h
    simp [Std.ExtTreeMap.getElem?_erase]
  · simp at h

/-- An insertion adds one object, behind the handle that was to be issued. -/
theorem getElem?_entries_insert {registry grown : Registry} {handle : Handle} {object : Object}
    (h : registry.insert object = .ok (handle, grown)) (key : Handle) :
    handle = registry.issue ∧ grown.entries[key]?
      = if handle = key then some object else registry.entries[key]? := by
  unfold insert at h
  split at h
  · simp at h
  · simp only [Except.ok.injEq, Prod.mk.injEq] at h
    obtain ⟨rfl, rfl⟩ := h
    simp [Std.ExtTreeMap.getElem?_insert]

end Registry

end PayloadExchange
