import PayloadExchange.Proofs.Boundary.Popping

/-! # Arguments written as strings and as blocks

A caller hands over an argument as a string, which ends at its first zero byte, or as a block with
anything in it. A string is no more than the block of what is seen of it; and of no string, whatever
the call, is more seen than that. Main statement: this is so for every call, and what was written in
either way is found at the index that it was written at.
-/

namespace PayloadExchange

namespace Boundary

/-- A way to write an argument: behind the others, into a gap, or in place of another one. -/
inductive Write where
  | push
  | insert (index : Int64)
  | set (index : Int64)

namespace Write

def string (handle : Handle) (text : StringPointer) : Write → Request
  | push => .pushString handle text
  | insert index => .insertString handle index text
  | set index => .setString handle index text

def block (handle : Handle) (block : Block) : Write → Request
  | push => .pushBlock handle block
  | insert index => .insertBlock handle index block
  | set index => .setBlock handle index block

def index : Write → Int64
  | push => -1
  | insert index | set index => index

def apply (payload : Payload) (arg : Bytes) : Write → Except Fault Payload
  | push => .ok (payload.push arg)
  | insert index => payload.insert index arg
  | set index => payload.set index arg

end Write

/-- The request with no more of its strings than is seen. -/
def Request.seen : Request → Request
  | newCommand interface operation =>
      newCommand (interface.map Bytes.beforeNul) (operation.map Bytes.beforeNul)
  | interfaceIs handle text => interfaceIs handle (text.map Bytes.beforeNul)
  | operationIs handle text => operationIs handle (text.map Bytes.beforeNul)
  | setJson handle text => setJson handle (text.map Bytes.beforeNul)
  | pushString handle text => pushString handle (text.map Bytes.beforeNul)
  | insertString handle index text => insertString handle index (text.map Bytes.beforeNul)
  | setString handle index text => setString handle index (text.map Bytes.beforeNul)
  | request => request

def Call.seen : Call → Call
  | request asked => request asked.seen
  | setError text => setError (text.map Bytes.beforeNul)
  | call => call

theorem beforeNul_beforeNul (memory : Bytes) : memory.beforeNul.beforeNul = memory.beforeNul := by
  have visible : ∀ byte ∈ memory.beforeNul, decide (byte ≠ 0) = true := by
    intro byte member
    rw [decide_eq_true_iff]
    rintro rfl
    exact zero_not_mem_beforeNul memory member
  have whole : (memory.beforeNul ++ []).takeWhile (· ≠ 0) = memory.beforeNul ++ [] :=
    List.takeWhile_append_of_pos visible
  rwa [List.append_nil] at whole

theorem receiveBytes_seen (pointer : StringPointer) :
    receiveBytes (pointer.map Bytes.beforeNul) = receiveBytes pointer := by
  cases pointer with
  | none => rfl
  | some memory => exact congrArg Except.ok (beforeNul_beforeNul memory)

theorem receiveText_seen (pointer : StringPointer) :
    receiveText (pointer.map Bytes.beforeNul) = receiveText pointer := by
  rw [receiveText, receiveBytes_seen, receiveText]

theorem Request.run_seen (request : Request) (registry : Registry) :
    request.seen.run registry = request.run registry := by
  cases request with
  | newCommand interface operation => simp only [seen, run, receiveText_seen]
  | setJson handle text => simp only [seen, run, receiveText_seen]
  | interfaceIs | operationIs | pushString | insertString | setString =>
      simp only [seen, run, receiveBytes_seen]
  | _ => rfl

theorem Request.failure_seen (request : Request) : request.seen.failure = request.failure := by
  cases request <;> rfl

namespace Host

variable (host : Host) (thread : Thread)

/-- Nothing behind the first zero byte of a string has a part in a call. -/
theorem call_seen (call : Call) : host.call thread call.seen = host.call thread call := by
  cases call with
  | request asked =>
      simp only [Call.seen, Host.call, request, Request.run_seen, Request.failure_seen]
  | setError text =>
      cases text with
      | none => rfl
      | some memory => simp only [Call.seen, Host.call, Option.map_some, beforeNul_beforeNul]
  | kind | explain | releaseNull | release | version | schema => rfl

theorem call_string (write : Write) (handle : Handle) (memory : Bytes) :
    host.call thread (.request (write.string handle (some memory)))
      = host.call thread (.request (write.block handle (.bytes memory.beforeNul))) := by
  cases write <;> rfl

end Host

/-- At the index is this argument: a block takes as much of it as fits and is told its size, one
    that is large enough takes all of it, and it is returned as a string just if no zero is in
    it. -/
structure Host.Finds (host : Host) (handle : Handle) (index : Int64) (arg : Bytes) : Prop where
  block : ∀ (thread : Thread) (block : Block) (size : Nat), block.Holds size →
    host.HandsOut thread handle index block arg
  whole : ∀ (thread : Thread) (contents : Bytes), arg.length ≤ contents.length → ∃ size after,
    (host.call thread (.request (.getBlock handle index (.bytes contents)))).1
      = .copied size after ∧ size.toInt = arg.length ∧ after.take arg.length = arg
  string : ∀ thread : Thread,
    (∃ bytes, (host.call thread (.request (.getString handle index))).1 = .string (some bytes))
      ↔ 0 ∉ arg
  returned : 0 ∉ arg → ∀ thread : Thread,
    (host.call thread (.request (.getString handle index))).1 = .string (some arg)
  refused : 0 ∈ arg → ∀ thread : Thread,
    host.Refuses thread (.getString handle index) .zeroInArgument

end Boundary

namespace Payload

variable {payload changed : Payload} {index : Int64} {arg : Bytes}

theorem exists_parts_of_get (small : payload.count < 9223372036854775808)
    (found : payload.get index = .ok arg) : ∃ front back,
      payload.args = front ++ arg :: back ∧ StandsFor payload.count index.toInt front.length := by
  rcases parts_at_item payload.args index.toInt with ⟨front, other, back, parts, stands⟩ | outside
  · obtain rfl := Except.ok.inj (found.symm.trans (get_of_parts parts small stands))
    exact ⟨front, back, parts, stands⟩
  · rw [get_of_outside small outside] at found
    cases found

theorem get_set (small : payload.count < 9223372036854775808)
    (replaced : payload.set index arg = .ok changed) :
    changed.get index = .ok arg ∧ changed.count = payload.count := by
  rcases parts_at_item payload.args index.toInt with ⟨front, old, back, parts, stands⟩ | outside
  · obtain rfl := Except.ok.inj ((set_of_parts parts small stands arg).symm.trans replaced)
    have count : Payload.count { payload with args := front ++ arg :: back } = payload.count := by
      simp only [Payload.count, parts, List.length_append, List.length_cons]
    have stands : StandsFor (Payload.count { payload with args := front ++ arg :: back })
        index.toInt front.length := count ▸ stands
    exact ⟨get_of_parts rfl (count ▸ small) stands, count⟩
  · rw [set_of_outside small outside] at replaced
    cases replaced

theorem count_insert (small : payload.count + 1 < 9223372036854775808)
    (inserted : payload.insert index arg = .ok changed) : changed.count = payload.count + 1 := by
  rcases insert_cases small index arg with ⟨front, back, parts, -, done⟩ | ⟨-, refused⟩
  · obtain rfl := Except.ok.inj (done.symm.trans inserted)
    simp only [Payload.count, parts, List.length_append, List.length_cons, Nat.add_assoc]
  · rw [refused] at inserted
    cases inserted

end Payload

namespace Boundary

namespace Write

variable {write : Write} {payload changed : Payload} {arg : Bytes} {handle : Handle}
  {block : Block}

/-- Every way to write leaves the argument at its index, among at most one argument more. -/
theorem get_apply (small : payload.count + 1 < 9223372036854775808)
    (done : write.apply payload arg = .ok changed) :
    changed.get write.index = .ok arg ∧ changed.count ≤ payload.count + 1 := by
  cases write with
  | push =>
      obtain rfl := Except.ok.inj done
      have count : (payload.push arg).count = payload.count + 1 := by
        simp [Payload.count, Payload.push]
      exact ⟨Payload.get_last rfl (count ▸ small), Nat.le_of_eq count⟩
  | insert index =>
      exact ⟨(Payload.get_and_remove_inserted small done).1,
        Nat.le_of_eq (Payload.count_insert small done)⟩
  | set index =>
      obtain ⟨found, count⟩ := Payload.get_set (Nat.lt_of_succ_lt small) done
      exact ⟨found, count ▸ Nat.le_succ _⟩

theorem work_block (received : receiveBlock block = .ok arg) :
    (write.block handle block).work payload = (Success.done, ·) <$> write.apply payload arg := by
  cases write with
  | push | insert index | set index =>
      simp only [Write.block, Request.work, received, apply, map_eq_pure_bind]
      rfl

theorem about_block : (write.block handle block).half?.isSome := by
  cases write <;> rfl

theorem names_block : (write.block handle block).names = [handle] := by
  cases write <;> rfl

theorem failure_block : (write.block handle block).failure = .code (-1) := by
  cases write <;> rfl

end Write

namespace Host

variable {host : Host} {thread : Thread} {handle : Handle} {object : Object}

theorem registry_of_written {write : Write} {block : Block} {arg : Bytes}
    (received : receiveBlock block = .ok arg)
    (done : (host.call thread (.request (write.block handle block))).1 = .code 0) :
    ∃ object changed, host.registry.lookup handle = .ok object ∧
      write.apply object.payload arg = .ok changed ∧
      (host.call thread (.request (write.block handle block))).2.registry
        = host.registry.withPayload handle changed := by
  have refuted {fault : Fault} (ran : (write.block handle block).run host.registry
      = (.error fault, host.registry)) : False := by
    rw [(Host.call_error ran).1, Write.failure_block] at done
    exact absurd done (by decide)
  by_cases known : handle ∈ host.registry.liveHandles
  · obtain ⟨object, stored⟩ := Registry.mem_liveHandles.1 known
    have live := Registry.lookup_eq_ok_iff.1 stored
    have works : (write.block handle block).work object.payload
        = (Success.done, ·) <$> write.apply object.payload arg := Write.work_block received
    cases applied : write.apply object.payload arg with
    | error fault =>
        rw [applied] at works
        have ran := Request.run_of_work_error Write.about_block Write.names_block live works
        exact (refuted ran).elim
    | ok changed =>
        rw [applied] at works
        refine ⟨object, changed, stored, applied, ?_⟩
        rw [Host.call_of_live Write.about_block Write.names_block live works, Host.registry_after]
  · obtain ⟨fault, ran⟩ := Request.run_of_single_dead known Write.names_block
    exact (refuted ran).elim

theorem finds_of_get {index : Int64} {arg : Bytes}
    (stored : host.registry.lookup handle = .ok object)
    (small : object.payload.count < 9223372036854775808)
    (short : arg.length < 9223372036854775808) (found : object.payload.get index = .ok arg) :
    host.Finds handle index arg := by
  have live := Registry.lookup_eq_ok_iff.1 stored
  obtain ⟨front, back, parts, stands⟩ := Payload.exists_parts_of_get small found
  have handed (thread : Thread) (block : Block) (size : Nat) (holds : block.Holds size) :
      host.HandsOut thread handle index block arg :=
    Host.handsOut live small holds parts stands short
  have looked := Request.work_getString handle found
  have returned (plain : 0 ∉ arg) (thread : Thread) :
      (host.call thread (.request (.getString handle index))).1 = .string (some arg) := by
    rw [returnArgument_of_plain plain] at looked
    rw [Host.call_of_look rfl rfl live looked]
    rfl
  have refused (zero : 0 ∈ arg) (thread : Thread) :
      host.Refuses thread (.getString handle index) .zeroInArgument := by
    rw [returnArgument_of_zero zero] at looked
    exact (Host.refuses_of_work_error rfl rfl live rfl looked).1
  refine ⟨handed, ?_, fun thread => ⟨?_, fun plain => ⟨arg, returned plain thread⟩⟩, returned,
    refused⟩
  · intro thread contents room
    obtain ⟨size, after, copied, -, sized, filled⟩ := (handed thread _ _ (.bytes contents)).handed
    refine ⟨size, after, copied, sized, ?_⟩
    have front := filled.front
    rwa [show min (Block.bytes contents).contents.length arg.length = arg.length from
      Nat.min_eq_right room, List.take_length] at front
  · rintro ⟨bytes, came⟩ zero
    rw [(refused zero thread).1] at came
    cases came

theorem finds_written {write : Write} {block : Block} {arg : Bytes}
    (few : ∀ object, host.registry.lookup handle = .ok object →
      object.payload.count < 9223372036854775807)
    (received : receiveBlock block = .ok arg) (short : arg.length < 9223372036854775808)
    (done : (host.call thread (.request (write.block handle block))).1 = .code 0) :
    (host.call thread (.request (write.block handle block))).2.Finds handle write.index arg := by
  obtain ⟨object, changed, stored, applied, left⟩ := Host.registry_of_written received done
  have small := few object stored
  obtain ⟨found, count⟩ := Write.get_apply (by omega) applied
  have live := Registry.lookup_eq_ok_iff.1 stored
  have holds : (object.withPayload changed).payload = changed := Object.payload_withPayload ..
  have stays : (host.call thread (.request (write.block handle block))).2.registry.lookup handle
      = .ok (object.withPayload changed) := by
    rw [left, Registry.lookup_eq_ok_iff, Registry.entries_withPayload live]
  refine Host.finds_of_get stays ?_ short (holds.symm ▸ found)
  rw [holds]
  omega

end Host

/-- To write a string is to write the block of what is seen of it: the reply, the report and the
    registry are the same. What stands behind the first zero byte of a string has no part in any
    call, so two calls that look the same are the same. And what was written is found again at its
    index: all of it by a block, and as a string just if there is no zero byte in it, as there is
    none where a string was written. -/
theorem strings_are_blocks (host : Host) (handle : Handle)
    (few : ∀ object, host.registry.lookup handle = .ok object →
      object.payload.count < 9223372036854775807) :
    (∀ (thread : Thread) (write : Write) (memory : Bytes),
      host.call thread (.request (write.string handle (some memory)))
        = host.call thread (.request (write.block handle (.bytes memory.beforeNul)))) ∧
    (∀ (thread : Thread) (call : Call), host.call thread call.seen = host.call thread call) ∧
    (∀ (thread : Thread) (call other : Call), call.seen = other.seen →
      host.call thread call = host.call thread other) ∧
    (∀ (thread : Thread) (write : Write) (memory : Bytes),
      memory.beforeNul.length < 9223372036854775808 →
      let written := host.call thread (.request (write.string handle (some memory)))
      written.1 = .code 0 → 0 ∉ memory.beforeNul ∧
        written.2.Finds handle write.index memory.beforeNul) ∧
    ∀ (thread : Thread) (write : Write) (block : Block) (arg : Bytes),
      receiveBlock block = .ok arg → arg.length < 9223372036854775808 →
      let written := host.call thread (.request (write.block handle block))
      written.1 = .code 0 → written.2.Finds handle write.index arg := by
  refine ⟨fun thread write => host.call_string thread write handle, host.call_seen, ?_, ?_, ?_⟩
  · intro thread call other same
    rw [← host.call_seen thread call, same, host.call_seen]
  · intro thread write memory short written done
    have same := host.call_string thread write handle memory
    refine ⟨zero_not_mem_beforeNul memory, ?_⟩
    rw [show written = _ from same] at done ⊢
    exact Host.finds_written few rfl short done
  · intro thread write block arg received short written done
    exact Host.finds_written few received short done

/-- A string that is no text, with a byte behind its end: it is pushed as its first two bytes and is
    returned as these. In its place comes a block with a zero byte, which is no string. -/
theorem ended_string_and_block_with_zero :
    let before := ((Host.start fun _ => none).call 0 (.request .newPayload)).2
    let memory : Bytes := [104, 255, 0, 9]
    let contents : Bytes := [7, 0, 8]
    let pushed := before.call 0 (.request (.pushString 1 (some memory)))
    let replaced := pushed.2.call 0 (.request (.setBlock 1 0 (.bytes contents)))
    pushed = before.call 0 (.request (.pushBlock 1 (.bytes [104, 255]))) ∧
      pushed = before.call 0 (.request (.pushString 1 (some [104, 255]))) ∧
      pushed.1 = .code 0 ∧
      (pushed.2.call 3 (.request (.getString 1 (-1)))).1 = .string (some [104, 255]) ∧
      replaced.1 = .code 0 ∧ replaced.2.Finds 1 0 contents ∧
      (replaced.2.call 0 (.request (.getBlock 1 0 (.bytes [1, 1, 1])))).1 = .copied 3 contents ∧
      replaced.2.Refuses 0 (.getString 1 0) .zeroInArgument := by
  intro before memory contents pushed replaced
  obtain ⟨object, stored, args⟩ : ∃ object, before.registry.lookup 1 = .ok object ∧
      object.payload.args = [] := exists_stored_of_args (by decide +kernel)
  obtain ⟨other, kept, held⟩ : ∃ object, pushed.2.registry.lookup 1 = .ok object ∧
      object.payload.args = [[104, 255]] := exists_stored_of_args (by decide +kernel)
  have none (found : Object) (same : before.registry.lookup 1 = .ok found) :
      found.payload.count < 9223372036854775807 := by
    rw [← Except.ok.inj (stored.symm.trans same), Payload.count, args]
    decide
  have one (found : Object) (same : pushed.2.registry.lookup 1 = .ok found) :
      found.payload.count < 9223372036854775807 := by
    rw [← Except.ok.inj (kept.symm.trans same), Payload.count, held]
    decide
  obtain ⟨asBlock, -, alike, found, -⟩ := strings_are_blocks before 1 none
  obtain ⟨-, -, -, -, foundBlock⟩ := strings_are_blocks pushed.2 1 one
  obtain ⟨plain, finds⟩ := found 0 .push memory (by decide) (by decide +kernel)
  have findsBlock := foundBlock 0 (.set 0) (.bytes contents) contents rfl (by decide)
    (by decide +kernel)
  exact ⟨asBlock 0 .push memory, alike 0 _ (.request (.pushString 1 (some [104, 255]))) rfl,
    by decide +kernel, finds.returned plain 3, by decide +kernel, findsBlock, by decide +kernel,
    findsBlock.refused (by decide) 0⟩

end Boundary

end PayloadExchange
