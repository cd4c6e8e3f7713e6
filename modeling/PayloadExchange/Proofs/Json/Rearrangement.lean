import PayloadExchange.Proofs.Json.Completeness

/-! # The order of members

A text may be taken as it is written, with every member in its place. What is read is then that
value with its members collected throughout, and it stays the same if members with different keys
change places.
-/

namespace PayloadExchange.Json

namespace Value

mutual

/-- The value with the members of every object collected. -/
def collected : Value → Value
  | array elements => .array (collectedElements elements)
  | object members => .object (collect (collectedMembers members))
  | value => value

def collectedElements : List Value → List Value
  | [] => []
  | value :: rest => collected value :: collectedElements rest

def collectedMembers : List (String × Value) → List (String × Value)
  | [] => []
  | member :: rest => (member.1, collected member.2) :: collectedMembers rest

end

theorem collectedElements_eq_map (elements : List Value) :
    collectedElements elements = elements.map collected := by
  induction elements with
  | nil => rfl
  | cons first others ih => rw [collectedElements, ih, List.map_cons]

theorem collectedMembers_eq_map (members : List (String × Value)) :
    collectedMembers members = members.map (Prod.map id collected) := by
  induction members with
  | nil => rfl
  | cons first others ih =>
      rw [collectedMembers, ih, List.map_cons]
      rfl

theorem collected_array (elements : List Value) :
    collected (.array elements) = .array (elements.map collected) := by
  rw [collected, collectedElements_eq_map]

theorem collected_object (members : List (String × Value)) :
    collected (.object members) = .object (collect (members.map (Prod.map id collected))) := by
  rw [collected, collectedMembers_eq_map]

end Value

/-- One value comes from the other by steps that let two members with different keys, next to each
    other in some object inside, change places. -/
inductive Rearranged : Value → Value → Prop where
  | refl (value : Value) : Rearranged value value
  | trans {first second third : Value} : Rearranged first second → Rearranged second third →
      Rearranged first third
  | swap (before after : List (String × Value)) {a b : String × Value} : a.1 ≠ b.1 →
      Rearranged (.object (before ++ a :: b :: after)) (.object (before ++ b :: a :: after))
  | element (before after : List Value) {first second : Value} : Rearranged first second →
      Rearranged (.array (before ++ first :: after)) (.array (before ++ second :: after))
  | member (before after : List (String × Value)) (key : String) {first second : Value} :
      Rearranged first second →
      Rearranged (.object (before ++ (key, first) :: after))
        (.object (before ++ (key, second) :: after))

section

variable {before after : List (String × Value)} {a b : String × Value}

theorem lastUnder_swap (distinct : a.1 ≠ b.1) {key : String} {value : Value} :
    LastUnder (before ++ a :: b :: after) key value ↔
      LastUnder (before ++ b :: a :: after) key value := by
  induction before with
  | nil =>
      simp only [List.nil_append, lastUnder_cons, List.forall_mem_cons]
      grind
  | cons first before ih =>
      rw [List.cons_append, List.cons_append, lastUnder_cons, lastUnder_cons, ih]
      simp only [List.forall_mem_append, List.forall_mem_cons, and_left_comm]

theorem collect_swap (distinct : a.1 ≠ b.1) :
    collect (before ++ a :: b :: after) = collect (before ++ b :: a :: after) := by
  have collected := collected_collect (before ++ a :: b :: after)
  refine Collected.eq_collect ⟨collected.ascending, fun key value => ?_⟩
  rw [collected.last, lastUnder_swap distinct]

end

theorem Rearranged.collected_eq {first second : Value} (rearranged : Rearranged first second) :
    first.collected = second.collected := by
  induction rearranged with
  | refl => rfl
  | trans _ _ ihFirst ihSecond => exact ihFirst.trans ihSecond
  | swap before after distinct =>
      simp only [Value.collected_object, List.map_append, List.map_cons]
      exact congrArg Value.object (collect_swap distinct)
  | element before after _ ih =>
      simp only [Value.collected_array, List.map_append, List.map_cons, ih]
  | member before after key _ ih =>
      simp only [Value.collected_object, List.map_append, List.map_cons, Prod.map_apply, ih]

theorem DocumentText.collected {number : Grammar Number} {text : String} {written : Value}
    (document : DocumentText number (· = ·) text written) :
    DocumentText number Collected text written.collected := by
  obtain ⟨start, behind, before, inside, after⟩ := document
  refine ⟨start, behind, before, ?_, after⟩
  refine inside.map (fun _ _ _ scalar => ?_) Value.collected_array ?_
  · cases scalar <;> constructor <;> assumption
  · rintro members _ rfl
    exact ⟨_, Value.collected_object members, collected_collect _⟩

/-- Texts that are written with rearranged members are read as the same value. -/
theorem parse_rearranged {number : Grammar Number} (readable : Readable number)
    {text other : String} {first second : Value}
    (document : DocumentText number (· = ·) text first)
    (another : DocumentText number (· = ·) other second) (rearranged : Rearranged first second) :
    ∃ value, parse text = .ok value ∧ parse other = .ok value := by
  refine ⟨first.collected, parse_documentText readable document.collected, ?_⟩
  rw [rearranged.collected_eq]
  exact parse_documentText readable another.collected

end PayloadExchange.Json
