import PayloadExchange.Proofs.Boundary.OutBlocks
import PayloadExchange.Proofs.Boundary.Precedence

/-! # Strings popped

An argument with a zero byte in it cannot be returned as a string. To pop a string is therefore all
or nothing: where the last argument is a string, it is returned and removed, and where it is none,
it stays where it is, and can still be had in a block. Main statement: who pops strings until that
fails has got the longest run of strings at the end of the arguments, the last one first, and has
left the rest.
-/

namespace PayloadExchange.Boundary

/-- No longer suffix of a list is good in all its items. -/
structure LongestSuffix {α : Type} (good : α → Prop) (items suffix : List α) : Prop where
  isSuffix : suffix <:+ items
  all : ∀ item ∈ suffix, good item
  longest : ∀ other, other <:+ items → (∀ item ∈ other, good item) →
    other.length ≤ suffix.length

section

variable {α : Type} {good : α → Prop}

/-- In front of the longest good suffix stands nothing, or what is not good. -/
theorem LongestSuffix.of_append {front tail : List α} (plain : ∀ item ∈ tail, good item)
    (stuck : ∀ before item, front = before ++ [item] → ¬ good item) :
    LongestSuffix good (front ++ tail) tail where
  isSuffix := List.suffix_append front tail
  all := plain
  longest := by
    intro other ends others
    rcases Nat.le_total other.length tail.length with shorter | longer
    · exact shorter
    · obtain ⟨extra, rfl⟩ :=
        List.suffix_of_suffix_length_le (List.suffix_append front tail) ends longer
      obtain ⟨before, whole⟩ := ends
      rw [← List.append_assoc] at whole
      have parts : before ++ extra = front := List.append_cancel_right whole
      rcases List.eq_nil_or_concat extra with rfl | ⟨between, item, rfl⟩
      · exact Nat.le_refl _
      · -- The longer one would reach over the item that is not good.
        rw [List.concat_eq_append, ← List.append_assoc] at parts
        exact absurd (others item (by simp)) (stuck _ item parts.symm)

theorem exists_longest_parts (good : α → Prop) (items : List α) :
    ∃ front tail, items = front ++ tail ∧ (∀ item ∈ tail, good item) ∧
      ∀ before item, front = before ++ [item] → ¬ good item := by
  -- The items are looked at from the last one on.
  rw [← items.reverse_reverse]
  induction items.reverse with
  | nil => exact ⟨[], [], rfl, nofun, by simp⟩
  | cons last others ih =>
      rw [List.reverse_cons]
      by_cases fine : good last
      · obtain ⟨front, tail, parts, plain, stuck⟩ := ih
        refine ⟨front, tail ++ [last], by rw [← List.append_assoc, ← parts], ?_, stuck⟩
        intro item member
        rcases List.mem_append.1 member with within | final
        · exact plain item within
        · rwa [List.mem_singleton.1 final]
      · refine ⟨others.reverse ++ [last], [], (List.append_nil _).symm, nofun, ?_⟩
        intro before item parts
        obtain rfl := List.singleton_inj.1 (List.append_inj_right' parts rfl)
        exact fine

end

theorem returnArgument_of_plain {arg : Bytes} (plain : 0 ∉ arg) : returnArgument arg = .ok arg :=
  if_neg plain

theorem returnArgument_of_zero {arg : Bytes} (zero : 0 ∈ arg) :
    returnArgument arg = .error .zeroInArgument :=
  if_pos zero

/-- The last argument stays, since it is no string. It is looked at in vain for the same reason, and
    a block that is large enough takes all of it afterwards. -/
structure Host.PutsBack (host : Host) (thread : Thread) (handle : Handle) (arg : Bytes) :
    Prop where
  refused : host.Refuses thread (.popString handle) .zeroInArgument
  unseen : host.Refuses thread (.getString handle (-1)) .zeroInArgument
  kept : (host.call thread (.request (.popString handle))).2.registry = host.registry
  whole : ∀ contents : Bytes, arg.length ≤ contents.length → ∃ size after,
    ((host.call thread (.request (.popString handle))).2.call thread
      (.request (.popBlock handle (.bytes contents)))).1 = .copied size after ∧
    size.toInt = arg.length ∧ after.take arg.length = arg

section

variable {host : Host} {thread : Thread} {handle : Handle} {object : Object} {request : Request}

theorem Host.refuses_of_work_error (about : request.half?.isSome)
    (named : request.names = [handle]) (live : host.registry.entries[handle]? = some object)
    {fault : Fault} (unquoted : fault.quoted = none)
    (fails : request.work object.payload = .error fault) :
    host.Refuses thread request fault ∧
      (host.call thread (.request request)).2.registry = host.registry := by
  have ran := Request.run_of_work_error about named live fails
  exact ⟨Host.refuses_of_error unquoted (congrArg Prod.fst ran), (Host.call_error ran).2⟩

theorem Request.work_popString_nothing {payload : Payload} (none : payload.args = []) :
    (popString handle).work payload = .error .nothingToPop := by
  simp only [work, Payload.pop_of_nil none]
  rfl

section

variable {front : List Bytes} {arg : Bytes} (parts : object.payload.args = front ++ [arg])
include parts

theorem Request.work_popString_zero (zero : 0 ∈ arg) :
    (popString handle).work object.payload = .error .zeroInArgument := by
  rw [work_popString handle (Payload.pop_of_parts parts), returnArgument_of_zero zero]
  rfl

theorem Request.work_popString_plain (plain : 0 ∉ arg) : (popString handle).work object.payload
    = .ok (.string arg, { object.payload with args := front }) := by
  rw [work_popString handle (Payload.pop_of_parts parts), returnArgument_of_plain plain]
  rfl

variable (live : host.registry.entries[handle]? = some object)
include live

theorem Host.call_popString (plain : 0 ∉ arg) : host.call thread (.request (.popString handle))
    = (.string (some arg), host.after thread
        (host.registry.withPayload handle { object.payload with args := front })) :=
  Host.call_of_live rfl rfl live (Request.work_popString_plain parts plain)

variable (fits : object.payload.Fits)
include fits

theorem Host.popsString (plain : 0 ∉ arg) :
    host.PopsAs thread handle (.popString handle) (.getString handle (-1)) := by
  have looked : (Request.getString handle (-1)).work object.payload
      = .ok (.string arg, object.payload) := by
    rw [Request.work_getString handle (Payload.get_last parts fits.count),
      returnArgument_of_plain plain]
    rfl
  exact Host.popsAs live fits.count parts ⟨rfl, rfl⟩ ⟨rfl, rfl⟩
    (Request.work_popString_plain parts plain) looked

theorem Host.putsBack (zero : 0 ∈ arg) : host.PutsBack thread handle arg := by
  have looked : (Request.getString handle (-1)).work object.payload = .error .zeroInArgument := by
    rw [Request.work_getString handle (Payload.get_last parts fits.count),
      returnArgument_of_zero zero]
    rfl
  obtain ⟨refused, kept⟩ : host.Refuses thread (.popString handle) .zeroInArgument ∧ _ :=
    Host.refuses_of_work_error rfl rfl live rfl (Request.work_popString_zero parts zero)
  refine ⟨refused, (Host.refuses_of_work_error rfl rfl live rfl looked).1, kept, ?_⟩
  intro contents room
  have short : arg.length < 9223372036854775808 := fits.sizes arg (by simp [parts])
  have still : (host.call thread (.request (.popString handle))).2.registry.entries[handle]?
      = some object := by rw [kept, live]
  have popped := Request.work_popBlock handle (Block.Holds.bytes contents).received.1
    (Payload.pop_of_parts parts)
  have filled := filled_fill contents arg
  refine ⟨.ofNat arg.length, fill contents arg,
    congrArg Prod.fst (Host.call_of_live rfl rfl still popped), Int64.toInt_ofNat_of_lt short, ?_⟩
  have all := filled.front
  rwa [Nat.min_eq_right room, List.take_length] at all

end

end

/-- A thread pops strings until that fails. They are told in the order in which they came, and the
    host is the one after the failure. -/
inductive Host.Drains (thread : Thread) (handle : Handle) : Host → List Bytes → Host → Prop where
  | failed {host : Host} :
      (host.call thread (.request (.popString handle))).1 = .string none →
      Drains thread handle host [] (host.call thread (.request (.popString handle))).2
  | popped {host final : Host} {bytes : Bytes} {strings : List Bytes} :
      (host.call thread (.request (.popString handle))).1 = .string (some bytes) →
      Drains thread handle (host.call thread (.request (.popString handle))).2 strings final →
      Drains thread handle host (bytes :: strings) final

section

variable {host final : Host} {thread : Thread} {handle : Handle} {strings : List Bytes}

theorem Host.Drains.unique (drains : host.Drains thread handle strings final)
    {others : List Bytes} {ended : Host} (again : host.Drains thread handle others ended) :
    strings = others ∧ final = ended := by
  induction drains generalizing others ended with
  | failed nothing =>
      cases again with
      | failed => exact ⟨rfl, rfl⟩
      | popped came =>
          rw [nothing] at came
          cases came
  | popped came _ ih =>
      cases again with
      | failed nothing =>
          rw [nothing] at came
          cases came
      | popped same rest =>
          rw [came] at same
          obtain rfl := Option.some.inj (Reply.string.inj same)
          obtain ⟨rfl, rfl⟩ := ih rest
          exact ⟨rfl, rfl⟩

/-- Nothing comes off where the last argument is no string, or where there is none. -/
theorem Host.popString_stuck {object : Object}
    (live : host.registry.entries[handle]? = some object)
    (stuck : ∀ before arg, object.payload.args = before ++ [arg] → ¬ 0 ∉ arg) :
    (host.call thread (.request (.popString handle))).1 = .string none ∧
      (host.call thread (.request (.popString handle))).2.registry = host.registry := by
  rcases object.payload.pop_cases with ⟨before, arg, parts, -⟩ | ⟨none, -⟩
  · have zero := Decidable.not_not.1 (stuck before arg parts)
    exact Host.call_error
      (Request.run_of_work_error rfl rfl live (Request.work_popString_zero parts zero))
  · exact Host.call_error
      (Request.run_of_work_error rfl rfl live (Request.work_popString_nothing none))

/-- The strings at the end come off one by one. -/
theorem Host.exists_drains {object : Object} {front : List Bytes}
    (live : host.registry.entries[handle]? = some object)
    (parts : object.payload.args = front ++ strings.reverse)
    (plain : ∀ arg ∈ strings, 0 ∉ arg)
    (stuck : ∀ before arg, front = before ++ [arg] → ¬ 0 ∉ arg) :
    ∃ final : Host, host.Drains thread handle strings final ∧ final.registry
      = host.registry.withPayload handle { object.payload with args := front } := by
  -- By induction on what comes off, in the order in which it does.
  induction strings generalizing host object with
  | nil =>
      rw [List.reverse_nil, List.append_nil] at parts
      subst parts
      obtain ⟨nothing, kept⟩ := Host.popString_stuck live stuck
      exact ⟨_, .failed nothing, by rw [kept, Registry.withPayload_self live]⟩
  | cons arg strings ih =>
      rw [List.reverse_cons, ← List.append_assoc] at parts
      have called : host.call thread _ = _ :=
        Host.call_popString parts live (plain arg List.mem_cons_self)
      have found : (host.after thread (host.registry.withPayload handle
          { object.payload with args := front ++ strings.reverse })).registry.entries[handle]?
          = some (object.withPayload { object.payload with args := front ++ strings.reverse }) := by
        rw [Host.registry_after, Registry.entries_withPayload live]
      obtain ⟨final, drains, left⟩ := ih found (by rw [Object.payload_withPayload])
        fun other member => plain other (List.mem_cons_of_mem arg member)
      rw [Host.registry_after, Registry.withPayload_withPayload, Object.payload_withPayload] at left
      refine ⟨final, .popped (congrArg Prod.fst called) ?_, left⟩
      rwa [called]

end

/-- To pop a string is to look at the last argument and to remove it, or else to do nothing: where
    there is a zero byte in it, it is refused as the look at it is, it is still there, and a block
    takes all of it. So who pops strings until that fails gets the longest run of arguments without
    zero bytes at the end, in reverse order, and the others are left. -/
theorem popString_all_or_nothing (host : Host) (thread : Thread) (handle : Handle) {object : Object}
    (stored : host.registry.lookup handle = .ok object) (fits : object.payload.Fits) :
    let popped := host.call thread (.request (.popString handle))
    ((∃ bytes, popped.1 = .string (some bytes)) ↔
      ∃ front arg, object.payload.args = front ++ [arg] ∧ 0 ∉ arg) ∧
    (∀ front arg, object.payload.args = front ++ [arg] →
      (0 ∉ arg → popped.1 = .string (some arg) ∧
        host.PopsAs thread handle (.popString handle) (.getString handle (-1))) ∧
      (0 ∈ arg → host.PutsBack thread handle arg)) ∧
    (object.payload.args = [] → host.Refuses thread (.popString handle) .nothingToPop ∧
      popped.2.registry = host.registry) ∧
    Fault.nothingToPop.report = ⟨.outOfRange, "pop from empty argument list"⟩ ∧
    ∃ front tail final, object.payload.args = front ++ tail ∧
      LongestSuffix (0 ∉ ·) object.payload.args tail ∧
      (∀ strings ended, host.Drains thread handle strings ended
        ↔ strings = tail.reverse ∧ ended = final) ∧
      host.registry.PayloadReplaced final.registry handle object
        { object.payload with args := front } := by
  intro popped
  have live := Registry.lookup_eq_ok_iff.1 stored
  refine ⟨⟨?_, ?_⟩, ?_, ?_, rfl, ?_⟩
  · rintro ⟨bytes, came⟩
    apply Classical.byContradiction
    intro without
    have stuck : ∀ before arg, object.payload.args = before ++ [arg] → ¬ 0 ∉ arg :=
      fun before arg parts plain => without ⟨before, arg, parts, plain⟩
    have nothing : popped.1 = .string none := (Host.popString_stuck live stuck).1
    rw [came] at nothing
    cases nothing
  · rintro ⟨front, arg, parts, plain⟩
    exact ⟨arg, congrArg Prod.fst (Host.call_popString parts live plain)⟩
  · intro front arg parts
    refine ⟨fun plain => ⟨?_, Host.popsString parts live fits plain⟩,
      Host.putsBack parts live fits⟩
    exact congrArg Prod.fst (Host.call_popString parts live plain)
  · intro none
    exact Host.refuses_of_work_error rfl rfl live rfl (Request.work_popString_nothing none)
  · obtain ⟨front, tail, parts, plain, stuck⟩ :=
      exists_longest_parts (0 ∉ ·) object.payload.args
    have shape : object.payload.args = front ++ tail.reverse.reverse := by
      rw [List.reverse_reverse, parts]
    obtain ⟨final, drains, left⟩ := Host.exists_drains live shape
      (fun arg member => plain arg (List.mem_reverse.1 member)) stuck
    refine ⟨front, tail, final, parts, ?_, fun strings ended => ⟨fun again => ?_, ?_⟩, ?_⟩
    · rw [parts]
      exact .of_append plain stuck
    · exact again.unique drains
    · rintro ⟨rfl, rfl⟩
      exact drains
    · rw [left]
      exact Registry.payloadReplaced live _

/-- Two strings come off from behind an argument that is none; this one stays, however often it is
    asked for. -/
theorem strings_drained_to_zero_byte :
    let environment : Environment := fun _ => none
    let requests : List Request := [.newPayload, .pushBlock 1 (.bytes [97, 0]),
      .pushString 1 (some [98]), .pushString 1 (some [99])]
    let host := ((Host.start environment).runAll 0
      (requests.map fun request => .call (.request request))).2
    let popped (host : Host) := (host.call 0 (.request (.popString 1))).2
    let drained := popped (popped (popped host))
    ∃ object, host.registry.lookup 1 = .ok object ∧
      object.payload.args = [[97, 0], [98], [99]] ∧ object.payload.Fits ∧
      (host.call 0 (.request (.popString 1))).1 = .string (some [99]) ∧
      host.PopsAs 0 1 (.popString 1) (.getString 1 (-1)) ∧
      LongestSuffix (0 ∉ ·) object.payload.args [[98], [99]] ∧
      ∃ left, drained.registry.lookup 1 = .ok left ∧ left.payload.args = [[97, 0]] ∧
        drained.PutsBack 0 1 [97, 0] := by
  intro environment requests host popped drained
  obtain ⟨object, stored, args⟩ : ∃ object, host.registry.lookup 1 = .ok object ∧
      object.payload.args = [[97, 0], [98], [99]] := exists_stored_of_args (by decide +kernel)
  have fits : object.payload.Fits := ⟨by rw [args]; decide, by rw [args]; decide⟩
  obtain ⟨left, kept, last⟩ : ∃ left, drained.registry.lookup 1 = .ok left ∧
      left.payload.args = [[97, 0]] := exists_stored_of_args (by decide +kernel)
  have small : left.payload.Fits := ⟨by rw [last]; decide, by rw [last]; decide⟩
  obtain ⟨-, pops, -, -, front, tail, final, -, longest, drains, -⟩ :=
    popString_all_or_nothing host 0 1 stored fits
  have emptied : host.Drains 0 1 [[99], [98]] drained :=
    .popped (by decide +kernel) (.popped (by decide +kernel) (.failed (by decide +kernel)))
  have reversed := ((drains _ _).1 emptied).1
  rw [← tail.reverse_reverse, ← reversed] at longest
  obtain ⟨-, puts, -⟩ := popString_all_or_nothing drained 0 1 kept small
  obtain ⟨came, taken⟩ := (pops [[97, 0], [98]] [99] args).1 (by decide)
  exact ⟨object, stored, args, fits, came, taken, longest, left, kept, last,
    (puts [] [97, 0] last).2 (by decide)⟩

end PayloadExchange.Boundary
