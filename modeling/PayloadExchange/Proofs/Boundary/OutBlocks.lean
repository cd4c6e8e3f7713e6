import PayloadExchange.Proofs.Boundary.Complaints
import PayloadExchange.Proofs.Boundary.Copying

/-! # Blocks to be filled

A caller who wants an argument lends a block for it, of any size and with anything in it. As much
of the argument as fits is copied to the front, and its whole size is told, so that he learns if he
lent too little. To pop an argument is to look at it and to remove it. Main statement: this is so
for all blocks, and a call that fails writes nothing and removes nothing.
-/

namespace PayloadExchange.Boundary

/-- What is found in a block after bytes were copied to its front. -/
structure Filled (before source after : Bytes) : Prop where
  length : after.length = before.length
  front : after.take (min before.length source.length)
    = source.take (min before.length source.length)
  rest : after.drop (min before.length source.length)
    = before.drop (min before.length source.length)

theorem filled_fill (block source : Bytes) : Filled block source (fill block source) := by
  have fits : source.take block.length = source.take (min block.length source.length) := by
    rw [List.take_eq_take_iff]
    omega
  have left : block.drop source.length = block.drop (min block.length source.length) := by
    rw [List.drop_eq_drop_iff]
    omega
  have size : (source.take (min block.length source.length)).length
      = min block.length source.length := List.length_take_of_le (Nat.min_le_right _ _)
  rw [fill, fits, left]
  constructor
  · rw [List.length_append, size, List.length_drop]
    omega
  · exact List.take_left' size
  · exact List.drop_left' size

theorem Block.Holds.received {block : Block} {size : Nat} (holds : block.Holds size) :
    receiveBlock block = .ok block.contents ∧ block.contents.length = size := by
  cases holds with
  | bytes contents => exact ⟨rfl, rfl⟩
  | null => exact ⟨rfl, rfl⟩

section

variable {host : Host} {thread : Thread} {handle : Handle} {object : Object} {request : Request}
  (about : request.half?.isSome) (named : request.names = [handle])
include about named

theorem Host.call_of_live (live : host.registry.entries[handle]? = some object)
    {success : Success} {changed : Payload}
    (works : request.work object.payload = .ok (success, changed)) :
    host.call thread (.request request)
      = (success.reply, host.after thread (host.registry.withPayload handle changed)) := by
  refine Host.call_done rfl ?_
  rw [Request.run_of_live live about named, Request.act_ok works]

/-- The payload is as it was after work on it that is only a look. -/
theorem Host.call_of_look (live : host.registry.entries[handle]? = some object)
    {success : Success}
    (works : request.work object.payload = .ok (success, object.payload)) :
    host.call thread (.request request) = (success.reply, host.after thread host.registry) := by
  rw [Host.call_of_live about named live works, Registry.withPayload_self live]

theorem Request.run_of_work_error {registry : Registry}
    (live : registry.entries[handle]? = some object) {fault : Fault}
    (fails : request.work object.payload = .error fault) :
    request.run registry = (.error fault, registry) := by
  rw [run_of_live live about named, act_error fails, Registry.withPayload_self live]

theorem Request.work_of_run_error {registry : Registry}
    (live : registry.entries[handle]? = some object) {fault : Fault}
    (failed : (request.run registry).1 = .error fault) :
    request.work object.payload = .error fault := by
  rw [run_of_live live about named, act] at failed
  split at failed
  · cases failed
  · next found same => rw [same, Except.error.inj failed]

end

/-- Why nothing is to be had for a block: the null pointer was claimed to be some memory, the handle
    is dead, or the payload lacks what is asked for. -/
inductive Host.Denies (host : Host) (handle : Handle) (block : Block) (lacks : Payload → Prop) :
    Prop where
  | pointer {size : Nat} : block = .null size → size ≠ 0 → Denies host handle block lacks
  | handle : handle ∉ host.registry.liveHandles → Denies host handle block lacks
  | payload {object : Object} : host.registry.lookup handle = .ok object →
      lacks object.payload → Denies host handle block lacks

/-- The call fails for the one reason only, and then the block and the registry are left alone. -/
structure Host.FailsIdly (host : Host) (thread : Thread) (request : Request) (block : Block)
    (reason : Prop) : Prop where
  fails_iff : (∃ fault, (request.run host.registry).1 = .error fault) ↔ reason
  reply : reason → (host.call thread (.request request)).1 = .copied (-1) block.contents
  registry : reason → (host.call thread (.request request)).2.registry = host.registry

section

variable {host : Host} {thread : Thread} {handle : Handle} {request : Request} {block : Block}
  {lacks : Payload → Prop}

theorem Request.pointers_of_block (lent : request.block? = some block) :
    request.pointers = discard (receiveBlock block) := by
  cases request with
  | pushBlock | popBlock | insertBlock | setBlock | getBlock =>
      rw [← Option.some.inj lent]
      rfl
  | _ => cases lent

section

variable (about : request.half?.isSome) (named : request.names = [handle])
  (lent : request.block? = some block)
  (judged : ∀ object, host.registry.lookup handle = .ok object → ∀ contents,
    receiveBlock block = .ok contents →
      ((∃ fault, request.work object.payload = .error fault) ↔ lacks object.payload))
include about named judged

theorem Host.denies_of_error {fault : Fault}
    (failed : (request.run host.registry).1 = .error fault) :
    host.Denies handle block lacks := by
  by_cases known : handle ∈ host.registry.liveHandles
  · obtain ⟨object, stored⟩ := Registry.mem_liveHandles.1 known
    cases received : receiveBlock block with
    | error refused =>
        obtain ⟨⟨size, null, claimed⟩, -⟩ := receiveBlock_eq_error_iff.1 received
        exact .pointer null claimed
    | ok contents =>
        have fails := Request.work_of_run_error about named (Registry.lookup_eq_ok_iff.1 stored)
          failed
        exact .payload stored ((judged object stored contents received).1 ⟨fault, fails⟩)
  · exact .handle known

include lent

theorem Host.Denies.run_eq (denies : host.Denies handle block lacks) :
    ∃ fault, request.run host.registry = (.error fault, host.registry) := by
  have asked : request.names ≠ [] := by simp [named]
  have pointers := Request.pointers_of_block lent
  cases received : receiveBlock block with
  | error fault =>
      -- Whatever else is wrong, the pointer comes first.
      rw [received] at pointers
      exact ⟨fault, Request.run_of_pointers asked pointers⟩
  | ok contents =>
      cases denies with
      | pointer null claimed =>
          rw [null, receiveBlock, if_neg claimed] at received
          cases received
      | handle dead => exact Request.run_of_single_dead dead named
      | payload stored lacking =>
          obtain ⟨fault, fails⟩ := (judged _ stored contents received).2 lacking
          exact ⟨fault, Request.run_of_work_error about named (Registry.lookup_eq_ok_iff.1 stored)
            fails⟩

theorem Host.failsIdly (sign : request.failure = .copied (-1) block.contents) :
    host.FailsIdly thread request block (host.Denies handle block lacks) := by
  have ran (denies : host.Denies handle block lacks) := denies.run_eq about named lent judged
  refine ⟨⟨?_, fun denies => ?_⟩, fun denies => ?_, fun denies => ?_⟩
  · rintro ⟨fault, failed⟩
    exact Host.denies_of_error about named judged failed
  · obtain ⟨fault, failed⟩ := ran denies
    exact ⟨fault, congrArg Prod.fst failed⟩
  · obtain ⟨fault, failed⟩ := ran denies
    exact (Host.call_error failed).1.trans sign
  · obtain ⟨fault, failed⟩ := ran denies
    exact (Host.call_error failed).2

end

theorem Host.getBlock_failsIdly (index : Int64) (few : ∀ object,
    host.registry.lookup handle = .ok object → object.payload.count < 9223372036854775808) :
    host.FailsIdly thread (.getBlock handle index block) block
      (host.Denies handle block fun payload => ¬ InRange payload.count index.toInt) := by
  refine Host.failsIdly rfl rfl rfl (fun object stored contents received => ?_) rfl
  have small := few object stored
  rcases parts_at_item object.payload.args index.toInt with
    ⟨front, arg, back, parts, stands⟩ | outside
  · have found := Payload.get_of_parts parts small stands
    refine iff_of_false ?_ fun outside => outside (exists_standsFor_iff.1 ⟨_, stands⟩)
    rw [Request.work_getBlock handle received found]
    nofun
  · refine iff_of_true ⟨.indexOutOfRange index object.payload.count, ?_⟩ outside
    simp only [Request.work, received, Payload.get_of_outside small outside]
    rfl

theorem Host.popBlock_failsIdly :
    host.FailsIdly thread (.popBlock handle block) block
      (host.Denies handle block fun payload => payload.args = []) := by
  refine Host.failsIdly rfl rfl rfl (fun object stored contents received => ?_) rfl
  rcases object.payload.pop_cases with ⟨front, arg, parts, popped⟩ | ⟨none, empty⟩
  · refine iff_of_false ?_ (by simp [parts])
    rw [Request.work_popBlock handle received popped]
    nofun
  · refine iff_of_true ⟨.nothingToPop, ?_⟩ none
    simp only [Request.work, received, empty]
    rfl

end

/-- The argument at an index is copied into a block, and its size is told, the same that is told
    without a block; nothing is changed by this. -/
structure Host.HandsOut (host : Host) (thread : Thread) (handle : Handle) (index : Int64)
    (block : Block) (arg : Bytes) : Prop where
  handed : ∃ size contents,
    (host.call thread (.request (.getBlock handle index block))).1 = .copied size contents ∧
    (host.call thread (.request (.getSize handle index))).1 = .size size ∧
    size.toInt = arg.length ∧ Filled block.contents arg contents
  unchanged :
    (host.call thread (.request (.getBlock handle index block))).2.registry = host.registry

/-- To pop the last argument in some way is to look at it in that way, and to remove it. -/
structure Host.PopsAs (host : Host) (thread : Thread) (handle : Handle) (pop look : Request) :
    Prop where
  reply : (host.call thread (.request pop)).1 = (host.call thread (.request look)).1
  effect : (host.call thread (.request pop)).2
    = (host.call thread (.request (.remove handle (-1)))).2
  removed : (host.call thread (.request (.remove handle (-1)))).1 = .code 0

section

variable {host : Host} {thread : Thread} {handle : Handle} {object : Object}
  {front back : List Bytes} {arg : Bytes} (live : host.registry.entries[handle]? = some object)
  (small : object.payload.count < 9223372036854775808)
include live small

theorem Host.popsAs (parts : object.payload.args = front ++ [arg]) {pop look : Request}
    (about : pop.half?.isSome ∧ look.half?.isSome)
    (named : pop.names = [handle] ∧ look.names = [handle]) {success : Success}
    (popped : pop.work object.payload = .ok (success, { object.payload with args := front }))
    (looked : look.work object.payload = .ok (success, object.payload)) :
    host.PopsAs thread handle pop look := by
  have removed := Request.work_remove handle (Payload.remove_last parts small)
  constructor
  · rw [Host.call_of_live about.1 named.1 live popped,
      Host.call_of_look about.2 named.2 live looked]
  · rw [Host.call_of_live about.1 named.1 live popped, Host.call_of_live rfl rfl live removed]
  · rw [Host.call_of_live rfl rfl live removed]
    rfl

variable {block : Block} {size : Nat} (holds : block.Holds size)
include holds

theorem Host.handsOut {index : Int64} (parts : object.payload.args = front ++ arg :: back)
    (stands : StandsFor object.payload.count index.toInt front.length)
    (short : arg.length < 9223372036854775808) : host.HandsOut thread handle index block arg := by
  have found := Payload.get_of_parts parts small stands
  have copied := Request.work_getBlock handle holds.received.1 found
  have sized := Request.work_getSize handle found
  constructor
  · refine ⟨.ofNat arg.length, fill block.contents arg, ?_, ?_, Int64.toInt_ofNat_of_lt short,
      filled_fill _ _⟩
    · exact congrArg Prod.fst (Host.call_of_look rfl rfl live copied)
    · exact congrArg Prod.fst (Host.call_of_look rfl rfl live sized)
  · rw [Host.call_of_look rfl rfl live copied, Host.registry_after]

theorem Host.popsBlock (parts : object.payload.args = front ++ [arg]) :
    host.PopsAs thread handle (.popBlock handle block) (.getBlock handle (-1) block) :=
  Host.popsAs live small parts ⟨rfl, rfl⟩ ⟨rfl, rfl⟩
    (Request.work_popBlock handle holds.received.1 (Payload.pop_of_parts parts))
    (Request.work_getBlock handle holds.received.1 (Payload.get_last parts small))

end

theorem exists_stored_of_args {registry : Registry} {handle : Handle} {args : List Bytes}
    (shown : (registry.lookup handle).toOption.map (·.payload.args) = some args) :
    ∃ object, registry.lookup handle = .ok object ∧ object.payload.args = args := by
  cases found : registry.lookup handle with
  | error fault =>
      rw [found] at shown
      cases shown
  | ok object =>
      rw [found] at shown
      exact ⟨object, rfl, Option.some.inj shown⟩

/-- A block takes as much of an argument as fits, from the front, and keeps the rest of what was in
    it; the whole size is told however small the block is, and the null pointer passes for no
    memory. To pop into a block says and writes what the look at the last argument does, and
    removes this argument, even where it did not fit. Either call fails for a false null pointer, a
    dead handle or want of an argument, and for nothing else: then the block is as it was, and
    nothing is removed. -/
theorem blocks_take_what_fits (host : Host) (thread : Thread) (handle : Handle)
    (few : ∀ object, host.registry.lookup handle = .ok object →
      object.payload.count < 9223372036854775808) :
    (∀ object, host.registry.lookup handle = .ok object →
      ∀ (block : Block) (size : Nat), block.Holds size →
        (∀ (index : Int64) (front back : List Bytes) (arg : Bytes),
          object.payload.args = front ++ arg :: back →
          StandsFor object.payload.count index.toInt front.length →
          arg.length < 9223372036854775808 → host.HandsOut thread handle index block arg) ∧
        (object.payload.args ≠ [] → host.PopsAs thread handle (.popBlock handle block)
          (.getBlock handle (-1) block))) ∧
    ∀ block : Block,
      (∀ index : Int64, host.FailsIdly thread (.getBlock handle index block) block
        (host.Denies handle block fun payload => ¬ InRange payload.count index.toInt)) ∧
      host.FailsIdly thread (.popBlock handle block) block
        (host.Denies handle block fun payload => payload.args = []) := by
  refine ⟨?_, fun block => ⟨fun index => Host.getBlock_failsIdly index few,
    Host.popBlock_failsIdly⟩⟩
  intro object stored block size holds
  have live := Registry.lookup_eq_ok_iff.1 stored
  have small := few object stored
  refine ⟨?_, fun filled => ?_⟩
  · intro index front back arg parts stands short
    exact Host.handsOut live small holds parts stands short
  · rcases object.payload.pop_cases with ⟨front, arg, parts, -⟩ | ⟨none, -⟩
    · exact Host.popsBlock live small holds parts
    · exact absurd none filled

/-- An argument of three bytes for a block of two, and for one of four; then it is popped into none,
    and with nothing left the next block is untouched. -/
theorem blocks_too_short_and_too_long :
    let environment : Environment := fun _ => none
    let before := ((Host.start environment).call 0 (.request .newPayload)).2
    let host := (before.call 0 (.request (.pushBlock 1 (.bytes [1, 0, 3])))).2
    let emptied := (host.call 0 (.request (.popBlock 1 (.null 0)))).2
    ∃ object, host.registry.lookup 1 = .ok object ∧ object.payload.args = [[1, 0, 3]] ∧
      host.HandsOut 0 1 0 (.bytes [9, 9]) [1, 0, 3] ∧
      (host.call 0 (.request (.getBlock 1 0 (.bytes [9, 9])))).1 = .copied 3 [1, 0] ∧
      host.HandsOut 0 1 (-1) (.bytes [9, 9, 9, 9]) [1, 0, 3] ∧
      (host.call 0 (.request (.getBlock 1 (-1) (.bytes [9, 9, 9, 9])))).1
        = .copied 3 [1, 0, 3, 9] ∧
      host.PopsAs 0 1 (.popBlock 1 (.null 0)) (.getBlock 1 (-1) (.null 0)) ∧
      (emptied.call 0 (.request (.popBlock 1 (.bytes [9])))).1 = .copied (-1) [9] := by
  intro environment before host emptied
  obtain ⟨object, stored, args⟩ : ∃ object, host.registry.lookup 1 = .ok object ∧
      object.payload.args = [[1, 0, 3]] := exists_stored_of_args (by decide +kernel)
  have few : ∀ found, host.registry.lookup 1 = .ok found →
      found.payload.count < 9223372036854775808 := by
    intro found same
    rw [← Except.ok.inj (stored.symm.trans same), Payload.count, args]
    decide
  obtain ⟨filled, -⟩ := blocks_take_what_fits host 0 1 few
  have count : object.payload.count = 1 := congrArg List.length args
  have first : StandsFor object.payload.count (0 : Int64).toInt 0 := by
    rw [count]
    exact .fromFront (by decide) (by decide) rfl
  have last : StandsFor object.payload.count (-1 : Int64).toInt 0 := by
    rw [count]
    exact .last 0
  refine ⟨object, stored, args, ?_, by decide +kernel, ?_, by decide +kernel, ?_,
    by decide +kernel⟩
  · exact (filled object stored _ _ (.bytes _)).1 0 [] [] _ args first (by decide)
  · exact (filled object stored _ _ (.bytes _)).1 (-1) [] [] _ args last (by decide)
  · exact (filled object stored _ _ .null).2 (by simp [args])

end PayloadExchange.Boundary
