import PayloadExchange.Proofs.Boundary.Rendering
import PayloadExchange.Proofs.Json.Canonical
import PayloadExchange.Proofs.Text.Telling
import PayloadExchange.Registry.Operation

/-! # Dumps tell objects apart

The dump of an object is indented, and at every level the lines of a group can be told from its
end, which stands four spaces further to the left. So two dumps are alike only where everything in
them is: the names, the document down to its texts and numbers, and the arguments byte by byte.
What is quoted cannot pass for structure, as it ends where its quotes end.
-/

namespace PayloadExchange

open Text

namespace Json

theorem decimalDigits_inj {m n : Nat} (same : decimalDigits m = decimalDigits n) : m = n := by
  have denoted (k : Nat) : Nat.ofDigitChars 10 (decimalDigits k) 0 = k :=
    Nat.ofDigitChars_ten_toDigits
  rw [← denoted m, same, denoted]

theorem printInteger_inj {a b : Int} (same : printInteger a = printInteger b) : a = b := by
  -- No digit is a minus sign, so the signs agree.
  have unsigned (n : Nat) (rest : List Char) : decimalDigits n ≠ '-' :: rest := by
    intro signed
    have digits := (wholeDigits_decimalDigits n).areDigits
    rw [signed] at digits
    exact absurd (digits '-' List.mem_cons_self) (by decide)
  unfold printInteger at same
  split at same <;> split at same
  · have := decimalDigits_inj (List.cons.inj same).2
    omega
  · exact absurd same.symm (unsigned _ _)
  · exact absurd same (unsigned _ _)
  · have := decimalDigits_inj same
    omega

theorem same_self_of_isExact {value : Value} (noFloats : value.isExact = true) :
    value.same value = true := by
  induction value with
  | null => rfl
  | bool value | string text => simp [Value.same]
  | number value =>
      cases value with
      | float value => cases noFloats
      | integer value => simp [Value.same, Number.same]
  | array elements each =>
      rw [Value.isExact, areExact_iff] at noFloats
      exact sameElements_self fun value member => each value member (noFloats value member)
  | object members each =>
      rw [Value.isExact, haveExact_iff] at noFloats
      exact sameMembers_self fun member listed => each member listed (noFloats member listed)

end Json

namespace Outline

def line (level : Nat) (item : List Char × Outline) : List Char :=
  indent level ++ item.1 ++ pretty level item.2 ++ [',', '\n']

theorem prettyItems_eq_flatMap (level : Nat) (items : List (List Char × Outline)) :
    prettyItems level items = items.flatMap (line level) := by
  induction items with
  | nil => rfl
  | cons item items ih => rw [prettyItems, ih, List.flatMap_cons, line]

theorem indent_succ (level : Nat) : indent (level + 1) = indent level ++ indent 1 := by
  rw [indent, indent, indent, List.replicate_append_replicate]
  rfl

section

variable {level : Nat} {first second : Outline} {label other opening closing : List Char}
  {padded : Bool} {rest others : List (List Char × Outline)} {fact next : Prop}

theorem tell_line (labels : Tell label other fact)
    (outlines : Tell (first.pretty level) (second.pretty level) next) :
    Tell (line level (label, first)) (line level (other, second)) (fact ∧ next) :=
  (((labels.behind _).append outlines).before _)

theorem tell_prettyItems (outlines : Tell (first.pretty level) (second.pretty level) fact)
    (following : Tell (prettyItems level rest) (prettyItems level others) next) :
    Tell (prettyItems level ((label, first) :: rest))
      (prettyItems level ((label, second) :: others)) (fact ∧ next) := by
  rw [prettyItems, prettyItems]
  exact ((outlines.behind _).before _).append following

theorem tell_group_of_items {item another : List Char × Outline}
    (tell : Tell (prettyItems (level + 1) (item :: rest))
      (prettyItems (level + 1) (another :: others)) fact) :
    Tell (pretty level (.group opening padded (item :: rest) closing))
      (pretty level (.group opening padded (another :: others) closing)) fact := by
  rw [pretty, pretty]
  exact ((tell.behind _).before _).before _

/-- The items of a group are told from one another and from its end. -/
theorem tell_group {α : Type} {item : α → List Char × Outline} {items others : List α}
    {mark : Char} (visible : mark ≠ ' ' ∧ mark ≠ '\n')
    (each : ∀ a ∈ items, ∀ b ∈ others,
      Tell (line (level + 1) (item a)) (line (level + 1) (item b)) (a = b)) :
    Tell (pretty level (.group opening padded (items.map item) [mark]))
      (pretty level (.group opening padded (others.map item) [mark])) (items = others) := by
  have whole (a : α) (as : List α) :
      pretty level (.group opening padded ((a :: as).map item) [mark]) = opening ++ ('\n' ::
        ((a :: as).flatMap (fun a => line (level + 1) (item a)) ++ (indent level ++ [mark]))) := by
    rw [List.map_cons, pretty, prettyItems_eq_flatMap, ← List.map_cons, List.flatMap_map]
    simp only [List.append_assoc, List.cons_append, List.nil_append]
  cases items with
  | nil =>
      cases others with
      | nil => exact tell_of rfl
      | cons b bs =>
          rw [whole]
          exact (tell_of_ne visible.2).behind opening
  | cons a as =>
      cases others with
      | nil =>
          rw [whole]
          exact (tell_of_ne visible.2.symm).behind opening
      | cons b bs =>
          rw [whole, whole]
          refine ((tell_each each ?_).behind ['\n']).behind opening
          -- A line stands further to the right than the end of the group.
          intro inside behind left same
          rw [line, indent_succ level] at same
          simp only [List.append_assoc] at same
          have spaced := List.append_cancel_left same
          exact visible.1 (List.cons.inj spaced).1.symm

end

theorem tell_digits (level : Nat) (a b : UInt8) :
    Tell (line level ([], .leaf (Json.decimalDigits a.toNat)))
      (line level ([], .leaf (Json.decimalDigits b.toNat))) (a = b) := by
  have digits (byte : UInt8) : ∀ c ∈ Json.decimalDigits byte.toNat, Json.extendsNumber c = true :=
    Json.Numeric.decimalDigits byte.toNat
  have number := tell_token (digits a) (digits b) (show Json.extendsNumber ',' = false by decide)
  have shape (byte : UInt8) : line level ([], .leaf (Json.decimalDigits byte.toNat))
      = indent level ++ (Json.decimalDigits byte.toNat ++ [','] ++ ['\n']) := by
    simp [line, pretty]
  rw [shape, shape]
  refine ((number.before _).behind _).imp fun same => ?_
  exact UInt8.toNat_inj.1 (Json.decimalDigits_inj same)

theorem tell_bytes (level : Nat) (a b : Bytes) :
    Tell ((ofBytes a).pretty level) ((ofBytes b).pretty level) (a = b) := by
  rw [ofBytes, ofBytes, list, list, List.map_map, List.map_map]
  exact tell_group (by decide) fun m _ n _ => tell_digits (level + 1) m n

theorem tell_tagged {name : String} {a b : List Char} {fact : Prop} (level : Nat)
    (tell : Tell (a ++ [')']) (b ++ [')']) fact) :
    Tell ((tagged name a).pretty level) ((tagged name b).pretty level) fact := by
  rw [tagged, tagged, pretty, pretty, List.append_assoc, List.append_assoc]
  exact (tell.behind ['(']).behind name.toList

theorem tell_integer (a b : Int) :
    Tell (Json.printInteger a ++ [')']) (Json.printInteger b ++ [')']) (a = b) :=
  (tell_token (Json.Numeric.printInteger a) (Json.Numeric.printInteger b) (by decide)).imp
    Json.printInteger_inj

/-- The first letters of an outline, by which the forms of values differ. -/
def letters : Json.Value → List Char
  | .null => ['N', 'u', 'l']
  | .bool _ => ['B', 'o', 'o']
  | .number _ => ['N', 'u', 'm']
  | .string _ => ['S', 't', 'r']
  | .array _ => ['A', 'r', 'r']
  | .object _ => ['O', 'b', 'j']

theorem exists_letters (value : Json.Value) (level : Nat) :
    ∃ rest, (ofValue value).pretty level = letters value ++ rest := by
  cases value with
  | null => exact ⟨_, rfl⟩
  | bool value => cases value <;> exact ⟨_, rfl⟩
  | number | string => exact ⟨_, rfl⟩
  | array elements => cases elements <;> exact ⟨_, rfl⟩
  | object members => cases members <;> exact ⟨_, rfl⟩

theorem tell_of_letters {a b : Json.Value} {fact : Prop} (level : Nat)
    (apart : letters a ≠ letters b) :
    Tell ((ofValue a).pretty level) ((ofValue b).pretty level) fact := by
  intro rest left same
  obtain ⟨after, first⟩ := exists_letters a level
  obtain ⟨behind, second⟩ := exists_letters b level
  rw [first, second, List.append_assoc, List.append_assoc] at same
  have three (value : Json.Value) : (letters value).length = 3 := by cases value <;> rfl
  exact absurd (List.append_inj same ((three a).trans (three b).symm)).1 apart

/-- At every level the outlines of values without floats tell the values. -/
theorem tell_ofValue {a b : Json.Value} (first : a.isExact = true) (second : b.isExact = true)
    (level : Nat) : Tell ((ofValue a).pretty level) ((ofValue b).pretty level) (a = b) := by
  induction a generalizing b level with
  | null =>
      cases b with
      | null => exact tell_of rfl
      | _ => exact tell_of_letters level (by simp [letters])
  | bool value =>
      cases b with
      | bool other =>
          cases value <;> cases other
          · exact tell_of rfl
          · exact tell_tagged level (tell_of_ne (by decide))
          · exact tell_tagged level (tell_of_ne (by decide))
          · exact tell_of rfl
      | _ => exact tell_of_letters level (by simp [letters])
  | number value =>
      cases b with
      | number other =>
          cases value with
          | float value => cases first
          | integer value =>
              cases other with
              | float other => cases second
              | integer other =>
                  exact (tell_tagged level (tell_integer value other)).imp fun same => same ▸ rfl
      | _ => exact tell_of_letters level (by simp [letters])
  | string text =>
      cases b with
      | string other =>
          exact (tell_tagged level ((tell_quoted text other).before _)).imp fun same => same ▸ rfl
      | _ => exact tell_of_letters level (by simp [letters])
  | array elements each =>
      cases b with
      | array others =>
          rw [Json.Value.isExact, Json.areExact_iff] at first second
          rw [ofValue, ofValue, ofElements_eq_map, ofElements_eq_map, list, list, List.map_map,
            List.map_map]
          refine Tell.imp (tell_group (by decide) ?_) (congrArg Json.Value.array)
          intro value member other among
          have told := each value member (first value member) (second other among) (level + 1)
          exact (tell_line (tell_of trivial) told).imp And.right
      | _ => exact tell_of_letters level (by simp [letters])
  | object members each =>
      cases b with
      | object others =>
          rw [Json.Value.isExact, Json.haveExact_iff] at first second
          rw [ofValue, ofValue, ofMembers_eq_map, ofMembers_eq_map, keyed, keyed, List.map_map,
            List.map_map]
          refine Tell.imp (tell_group (by decide) ?_) (congrArg Json.Value.object)
          intro member listed other among
          have told := each member listed (first member listed) (second other among) (level + 1)
          have keys := (tell_quoted member.1 other.1).before [':', ' ']
          exact (tell_line keys told).imp fun same => Prod.ext same.1 same.2
      | _ => exact tell_of_letters level (by simp [letters])

theorem tell_args (level : Nat) (args others : List Bytes) :
    Tell ((list [] (args.map ofBytes)).pretty level) ((list [] (others.map ofBytes)).pretty level)
      (args = others) := by
  rw [list, list, List.map_map, List.map_map]
  refine tell_group (by decide) fun arg _ other _ => ?_
  exact (tell_line (tell_of trivial) (tell_bytes (level + 1) arg other)).imp And.right

theorem tell_leaf {level : Nat} {a b : List Char} {fact : Prop} (tell : Tell a b fact) :
    Tell ((leaf a).pretty level) ((leaf b).pretty level) fact := by
  rwa [pretty, pretty]

theorem tell_no_items (level : Nat) : Tell (prettyItems level []) (prettyItems level []) True :=
  tell_of trivial

end Outline

open Outline

theorem Payload.tell_outline {a b : Payload} (first : a.json.isExact = true)
    (second : b.json.isExact = true) (level : Nat) :
    Tell (a.outline.pretty level) (b.outline.pretty level) (a = b) := by
  have fields : Tell (a.outline.pretty level) (b.outline.pretty level)
      (a.json = b.json ∧ a.args = b.args ∧ True) :=
    tell_group_of_items (tell_prettyItems (tell_ofValue first second (level + 1))
      (tell_prettyItems (tell_args (level + 1) a.args b.args) (tell_no_items (level + 1))))
  refine fields.imp ?_
  cases a
  cases b
  rintro ⟨rfl, rfl, -⟩
  rfl

theorem Payload.same_iff_eq {a b : Payload} (first : a.json.isExact = true) :
    a.same b = true ↔ a = b := by
  rw [same, Bool.and_eq_true, beq_iff_eq]
  constructor
  · rintro ⟨json, args⟩
    cases a
    cases b
    rw [Payload.mk.injEq]
    exact ⟨Json.eq_of_same first json, args⟩
  · rintro rfl
    exact ⟨Json.same_self_of_isExact first, rfl⟩

theorem Command.tell_outline {a b : Command} (first : a.payload.json.isExact = true)
    (second : b.payload.json.isExact = true) (level : Nat) :
    Tell (a.outline.pretty level) (b.outline.pretty level) (a = b) := by
  have fields : Tell (a.outline.pretty level) (b.outline.pretty level)
      (a.interface = b.interface ∧ a.operation = b.operation ∧ a.payload = b.payload ∧ True) :=
    tell_group_of_items (tell_prettyItems (tell_leaf (tell_quoted a.interface b.interface))
      (tell_prettyItems (tell_leaf (tell_quoted a.operation b.operation))
        (tell_prettyItems (Payload.tell_outline first second (level + 1))
          (tell_no_items (level + 1)))))
  refine fields.imp ?_
  cases a
  cases b
  rintro ⟨rfl, rfl, rfl, -⟩
  rfl

namespace Object

variable {a b : Object}

theorem tell_wrapped {first second : Outline} {fact : Prop} (name : String)
    (tell : Tell (first.pretty 1) (second.pretty 1) fact) :
    Tell ((wrapped name first).pretty 0) ((wrapped name second).pretty 0) fact :=
  (tell_group_of_items (tell_prettyItems tell (tell_no_items 1))).imp And.left

theorem tell_outline (first : a.payload.json.isExact = true)
    (second : b.payload.json.isExact = true) :
    Tell (a.outline.pretty 0) (b.outline.pretty 0) (a = b) := by
  cases a with
  | data payload =>
      cases b with
      | data other =>
          exact (tell_wrapped "ArbData" (Payload.tell_outline first second 1)).imp (congrArg data)
      | command other => exact (tell_of_ne (by decide)).behind "Arb".toList
  | command named =>
      cases b with
      | data other => exact (tell_of_ne (by decide)).behind "Arb".toList
      | command other =>
          exact (tell_wrapped "ArbCmd" (Command.tell_outline first second 1)).imp
            (congrArg command)

theorem dump_inj (first : a.payload.json.isExact = true)
    (second : b.payload.json.isExact = true) : a.dump = b.dump ↔ a = b :=
  ⟨fun same => (tell_outline first second).holds (String.ofList_inj.1 same), congrArg dump⟩

/-- Without floats, to be the same is to be equal. -/
theorem same_iff_eq (first : a.payload.json.isExact = true) : a.same b = true ↔ a = b := by
  cases a with
  | data payload =>
      cases b with
      | data other =>
          have inside : payload.same other = true ↔ payload = other := Payload.same_iff_eq first
          rw [same, inside, data.injEq]
      | command other => exact ⟨nofun, nofun⟩
  | command named =>
      cases b with
      | data other => exact ⟨nofun, nofun⟩
      | command other =>
          have inside : named.payload.same other.payload = true ↔ named.payload = other.payload :=
            Payload.same_iff_eq first
          rw [same, Command.same, Bool.and_eq_true, Bool.and_eq_true, beq_iff_eq, beq_iff_eq,
            inside, command.injEq, and_assoc]
          cases named
          cases other
          rw [Command.mk.injEq]

end Object

/-- Wherever the documents come from, if they hold no floats the dumps of two objects are alike just
    if the objects are the same: of one kind, with the same names, document and arguments. No line
    ends within the quotes around a text, and what was quoted can be told whatever stands behind
    it, so no text, key or name passes for structure. -/
theorem dumps_tell_objects_apart :
    (∀ x y : Object, x.payload.json.isExact = true → y.payload.json.isExact = true →
      (x.dump = y.dump ↔ x.same y = true) ∧ (x.same y = true ↔ x = y) ∧
      ∀ (registry other : Registry) (handle another : Handle),
        registry.lookup handle = .ok x → other.lookup another = .ok y →
        (registry.dump handle = other.dump another ↔ x.same y = true)) ∧
    (∀ text : String, '\n' ∉ quoted text) ∧
    ∀ (text other : String) (rest left : List Char),
      quoted text ++ rest = quoted other ++ left → text = other ∧ rest = left := by
  refine ⟨?_, newline_not_mem_quoted, tell_quoted⟩
  intro x y first second
  have same : x.same y = true ↔ x = y := Object.same_iff_eq first
  have dumped := (Object.dump_inj first second).trans same.symm
  refine ⟨dumped, same, ?_⟩
  intro registry other handle another stored found
  rw [← dumped, Registry.dump, Registry.dump, stored, found]
  exact ⟨Except.ok.inj, congrArg Except.ok⟩

/-- A text with quotes, a comma and the end of a line in it is told from the two texts that it
    imitates, and an argument of two bytes from two arguments. -/
theorem imitated_structure_told :
    let imitation : Json.Value := .object [("k", .array [.string "a\"),\n    String(\"b"])]
    let two : Json.Value := .object [("k", .array [.string "a", .string "b"])]
    let registry := ((Registry.empty {}).performAll [
      .insert { json := imitation, args := [[1, 2]] }, .insert { json := two, args := [[1, 2]] },
      .insert { json := two, args := [[1], [2]] }, .insert { json := two, args := [[1, 2]] }]).2
    registry.dump 1 ≠ registry.dump 2 ∧ registry.dump 2 ≠ registry.dump 3 ∧
      registry.dump 2 = registry.dump 4 := by
  intro imitation two registry
  let pair : Object := .data ⟨two, [[1, 2]]⟩
  obtain ⟨told, -⟩ := dumps_tell_objects_apart
  obtain ⟨-, -, imitated⟩ := told (.data ⟨imitation, [[1, 2]]⟩) pair (by decide) (by decide)
  obtain ⟨-, -, split⟩ := told pair (.data ⟨two, [[1], [2]]⟩) (by decide) (by decide)
  obtain ⟨-, -, alike⟩ := told pair pair (by decide) (by decide)
  have stored : registry.lookup 2 = .ok pair := rfl
  refine ⟨fun same => ?_, fun same => ?_, (alike registry registry 2 4 stored rfl).2 (by decide)⟩
  · exact absurd ((imitated registry registry 1 2 rfl stored).1 same) (by decide)
  · exact absurd ((split registry registry 2 3 stored rfl).1 same) (by decide)

end PayloadExchange
