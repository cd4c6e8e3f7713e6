import PayloadExchange.Object
import PayloadExchange.Proofs.Boundary.Wording
import PayloadExchange.Proofs.Json.Characters
import PayloadExchange.Proofs.Text.Telling

/-! # Renderings hold no zero

What a payload or an object is rendered as, compact or for people, can be handed over as a string
that ends at its first zero byte: both ways of writing a text escape the zero character, and
nothing else that is written has one. It does not matter what is rendered.
-/

namespace PayloadExchange

namespace Text

/-- The zero character does not occur. -/
def Zeroless (chars : List Char) : Prop := '\x00' ∉ chars

instance (chars : List Char) : Decidable (Zeroless chars) :=
  inferInstanceAs (Decidable ('\x00' ∉ chars))

theorem Zeroless.append {chars rest : List Char} (first : Zeroless chars)
    (second : Zeroless rest) : Zeroless (chars ++ rest) := by
  simpa [Zeroless] using ⟨first, second⟩

theorem Zeroless.cons {c : Char} {rest : List Char} (first : '\x00' ≠ c)
    (second : Zeroless rest) : Zeroless (c :: rest) := by
  simpa [Zeroless] using ⟨first, second⟩

theorem zeroless_of_visible {chars : List Char} (visible : ∀ c ∈ chars, 0x20 ≤ c.toNat) :
    Zeroless chars :=
  fun member => absurd (visible '\x00' member) (by decide)

theorem zeroless_toDigits (n : Nat) : Zeroless (Nat.toDigits 16 n) := by
  have digits : ∀ c ∈ Nat.toDigits 16 n, c ≠ '\x00' := forall_mem_toDigits (by decide) n
  exact fun member => digits _ member rfl

theorem zeroless_escape (c : Char) : Zeroless (escape c) := by
  unfold escape
  iterate 6
    split
    · decide
  split
  · exact ((show Zeroless ['\\', 'u', '\x7b'] by decide).append (zeroless_toDigits _)).append
      (by decide)
  · next zero _ => exact .cons (Ne.symm zero) (by decide)

theorem zeroless_quoted (text : String) : Zeroless (quoted text) := by
  refine .append (.cons (by decide) ?_) (by decide)
  intro member
  obtain ⟨c, -, escaped⟩ := List.mem_flatMap.1 member
  exact zeroless_escape c escaped

end Text

open Text

namespace Outline

/-- No part of the outline has a zero. -/
inductive Clear : Outline → Prop where
  | leaf {text : List Char} : Zeroless text → Clear (.leaf text)
  | group {opening closing : List Char} {padded : Bool} {items : List (List Char × Outline)} :
      Zeroless opening → (∀ item ∈ items, Zeroless item.1) → (∀ item ∈ items, Clear item.2) →
      Zeroless closing → Clear (.group opening padded items closing)

theorem zeroless_indent (level : Nat) : Zeroless (indent level) := by
  intro member
  exact absurd (List.eq_of_mem_replicate member) (by decide)

theorem zeroless_prettyItems {level : Nat} {items : List (List Char × Outline)}
    (labels : ∀ item ∈ items, Zeroless item.1)
    (each : ∀ item ∈ items, Zeroless (item.2.pretty level)) :
    Zeroless (prettyItems level items) := by
  induction items with
  | nil => exact List.not_mem_nil
  | cons item items ih =>
      have following := ih (fun other member => labels other (List.mem_cons_of_mem item member))
        fun other member => each other (List.mem_cons_of_mem item member)
      have line := ((zeroless_indent level).append (labels item List.mem_cons_self)).append
        (each item List.mem_cons_self)
      exact (line.append (by decide)).append following

theorem Clear.pretty {outline : Outline} (clear : outline.Clear) (level : Nat) :
    Zeroless (outline.pretty level) := by
  induction clear generalizing level with
  | leaf text => exact text
  | @group opening closing padded items first labels _ last each =>
      cases items with
      | nil => exact first.append last
      | cons item rest =>
          have inside := zeroless_prettyItems labels fun item member => each item member (level + 1)
          exact (((first.append (by decide)).append inside).append (zeroless_indent level)).append
            last

theorem clear_list {name : List Char} {items : List Outline} (named : Zeroless name)
    (each : ∀ item ∈ items, Clear item) : Clear (list name items) := by
  refine .group (named.append (by decide)) ?_ ?_ (by decide)
  all_goals
    intro item member
    obtain ⟨inside, known, rfl⟩ := List.mem_map.1 member
  · exact List.not_mem_nil
  · exact each inside known

theorem clear_keyed {name : List Char} {items : List (String × Outline)} (named : Zeroless name)
    (each : ∀ item ∈ items, Clear item.2) : Clear (keyed name items) := by
  refine .group (named.append (by decide)) ?_ ?_ (by decide)
  all_goals
    intro item member
    obtain ⟨inside, known, rfl⟩ := List.mem_map.1 member
  · exact (zeroless_quoted inside.1).append (by decide)
  · exact each inside known

theorem clear_fields {name : String} {items : List (String × Outline)}
    (named : Zeroless name.toList) (labels : ∀ item ∈ items, Zeroless item.1.toList)
    (each : ∀ item ∈ items, Clear item.2) : Clear (fields name items) := by
  refine .group (named.append (by decide)) ?_ ?_ (by decide)
  all_goals
    intro item member
    obtain ⟨inside, known, rfl⟩ := List.mem_map.1 member
  · exact (labels inside known).append (by decide)
  · exact each inside known

theorem clear_tagged {name : String} {text : List Char} (named : Zeroless name.toList)
    (plain : Zeroless text) : Clear (tagged name text) :=
  .leaf ((named.append (.cons (by decide) plain)).append (by decide))

theorem clear_ofBytes (bytes : Bytes) : Clear (ofBytes bytes) := by
  refine clear_list (by decide) ?_
  intro item member
  obtain ⟨byte, -, rfl⟩ := List.mem_map.1 member
  refine .leaf (zeroless_of_visible fun c digit => ?_)
  exact Json.visible_of_extendsNumber (Json.Numeric.decimalDigits _ c digit)

theorem ofElements_eq_map (elements : List Json.Value) :
    ofElements elements = elements.map ofValue := by
  induction elements with
  | nil => rfl
  | cons first others ih => rw [ofElements, ih, List.map_cons]

theorem ofMembers_eq_map (members : List (String × Json.Value)) :
    ofMembers members = members.map (Prod.map id ofValue) := by
  induction members with
  | nil => rfl
  | cons first others ih =>
      rw [ofMembers, ih, List.map_cons]
      rfl

theorem clear_ofValue (value : Json.Value) : Clear (ofValue value) := by
  induction value with
  | null => exact .leaf (by decide)
  | bool value => cases value <;> exact clear_tagged (by decide) (by decide)
  | number value =>
      refine clear_tagged (by decide) (zeroless_of_visible fun c member => ?_)
      exact Json.visible_of_extendsNumber (Json.Numeric.print value c member)
  | string text => exact clear_tagged (by decide) (zeroless_quoted text)
  | array elements each =>
      rw [ofValue, ofElements_eq_map]
      refine clear_list (by decide) ?_
      intro item member
      obtain ⟨inside, known, rfl⟩ := List.mem_map.1 member
      exact each inside known
  | object members each =>
      rw [ofValue, ofMembers_eq_map]
      refine clear_keyed (by decide) ?_
      intro item member
      obtain ⟨inside, known, rfl⟩ := List.mem_map.1 member
      exact each inside known

end Outline

namespace Payload

theorem clear_outline (payload : Payload) : payload.outline.Clear := by
  have args : (Outline.list [] (payload.args.map .ofBytes)).Clear := by
    refine Outline.clear_list (by decide) ?_
    intro item member
    obtain ⟨arg, -, rfl⟩ := List.mem_map.1 member
    exact Outline.clear_ofBytes arg
  refine Outline.clear_fields (by decide) ?_ ?_
  · simpa using ⟨by decide, by decide⟩
  · simpa using ⟨Outline.clear_ofValue payload.json, args⟩

theorem whole_jsonText (payload : Payload) : Whole payload.jsonText :=
  whole_ofList (zeroless_of_visible payload.json.visible_print)

theorem whole_dump (payload : Payload) : Whole payload.dump :=
  whole_ofList (payload.clear_outline.pretty 0)

end Payload

theorem Command.clear_outline (command : Command) : command.outline.Clear := by
  refine Outline.clear_fields (by decide) ?_ ?_
  · simpa using ⟨by decide, by decide, by decide⟩
  · simpa using ⟨.leaf (zeroless_quoted command.interface),
      .leaf (zeroless_quoted command.operation), command.payload.clear_outline⟩

theorem Object.whole_dump (object : Object) : Whole object.dump := by
  have wrapped {name : String} {item : Outline} (named : Zeroless name.toList)
      (clear : item.Clear) : (Outline.wrapped name item).Clear :=
    .group (named.append (by decide)) (by simp [Zeroless]) (by simpa using clear)
      (by decide)
  cases object with
  | data payload => exact whole_ofList ((wrapped (by decide) payload.clear_outline).pretty 0)
  | command named => exact whole_ofList ((wrapped (by decide) named.clear_outline).pretty 0)

end PayloadExchange
