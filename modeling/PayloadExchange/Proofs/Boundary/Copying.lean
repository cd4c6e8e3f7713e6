import PayloadExchange.Proofs.Boundary.OwnedStrings
import PayloadExchange.Proofs.Json.Canonical
import PayloadExchange.Proofs.Payload.Places

/-! # Copies by way of the caller

A caller can copy a payload without asking for a copy: he has the text of the document returned
and hands it over again, and carries the arguments across one by one in memory of his own. What a
call needs is found in the replies to those before it. Main statement: all of this succeeds, and
comes to the same as the one request for a copy.
-/

namespace PayloadExchange

/-- The document was read from a text. -/
def Object.Read (object : Object) : Prop :=
  ∃ (start : Payload) (text : String),
    start.setJsonText text = .ok { start with json := object.payload.json }

def Registry.Read (registry : Registry) : Prop :=
  ∀ (handle : Handle) (object : Object), registry.entries[handle]? = some object → object.Read

theorem Command.payload_of_make {interface operation : String} {payload : Payload}
    {named : Command} (made : Command.make interface operation payload = .ok named) :
    named.payload = payload := by
  obtain ⟨-, -, made⟩ := ok_of_bind made
  obtain ⟨-, -, made⟩ := ok_of_bind made
  rw [← Except.ok.inj made]

theorem Object.read_of_empty {object : Object} (empty : object.payload = .empty) :
    object.Read := by
  refine ⟨.empty, "\x7b\x7d", ?_⟩
  rw [empty]
  rfl

theorem Object.read_withPayload {start changed : Payload} {text : String} (object : Object)
    (accepted : start.setJsonText text = .ok changed) : (object.withPayload changed).Read := by
  obtain ⟨json, -, -, rfl⟩ := Payload.setJsonText_eq_ok accepted
  exact ⟨start, text, by rwa [Object.payload_withPayload]⟩

namespace Boundary

/-- Every request leaves documents that were read. -/
theorem Request.run_read {registry : Registry} (read : registry.Read) (request : Request) :
    (request.run registry).2.Read := by
  intro handle object stored
  cases run_stems stored with
  | kept live => exact read _ _ live
  | payload => exact Object.read_of_empty rfl
  | command made => exact Object.read_of_empty (Command.payload_of_make made)
  | read live accepted => exact Object.read_withPayload _ accepted
  | edited live same =>
      obtain ⟨start, text, accepted⟩ := read _ _ live
      exact ⟨start, text, by rwa [Object.payload_withPayload, same]⟩
  | copied live other =>
      obtain ⟨start, text, accepted⟩ := read _ _ other
      exact ⟨start, text, by rwa [Object.payload_withPayload]⟩

theorem Reachable.read {environment : Environment} {host : Host}
    (reachable : Reachable environment host) : host.registry.Read := by
  apply reachable.registry_of_run
  · intro handle object live
    simp [Registry.empty] at live
  · exact fun _ request read => request.run_read read

/-- What a caller does: requests, each with what follows upon the reply. -/
inductive Script where
  | stop
  | ask (request : Request) (next : Reply → Script)

/-- Carries out a script for a thread. -/
def Host.follow (host : Host) (thread : Thread) : Script → List Reply × Host
  | .stop => ([], host)
  | .ask request next =>
      let (reply, after) := host.call thread (.request request)
      let (replies, final) := after.follow thread (next reply)
      (reply :: replies, final)

/-- The host after a request of a thread has succeeded. -/
def Host.after (host : Host) (thread : Thread) (registry : Registry) : Host :=
  let host := { host with registry }
  if host.clearsOnSuccess then host.setSlot thread none else host

/-- No reply to the script is a failure, and it ends with this host. -/
structure Host.Completes (host : Host) (thread : Thread) (script : Script) (final : Host) :
    Prop where
  replies : ∀ reply ∈ (host.follow thread script).1, reply.isFailure = false
  final : (host.follow thread script).2 = final

section

variable {host : Host} {thread : Thread} {registry changed final : Registry} {request : Request}
  {success : Success} {next : Reply → Script}

theorem Host.registry_after : (host.after thread registry).registry = registry := by
  unfold Host.after
  dsimp only
  split <;> rfl

theorem Host.after_after :
    (host.after thread registry).after thread changed = host.after thread changed := by
  obtain ⟨before, clearsOnSuccess, slots, nextThread⟩ := host
  cases clearsOnSuccess with
  | false => rfl
  | true =>
      -- A slot that was emptied once is empty, so that it can as well be emptied again.
      have erased : (slots.erase thread).erase thread = slots.erase thread := by
        apply Std.ExtTreeMap.ext_getElem?
        intro other
        simp only [Std.ExtTreeMap.getElem?_erase]
        split <;> rfl
      exact congrArg (fun slots => Host.mk changed true slots nextThread) erased

theorem Host.call_done (come : host.registry = registry)
    (done : request.run registry = (.ok success, changed)) :
    host.call thread (.request request) = (success.reply, host.after thread changed) := by
  rw [Host.call, Host.request, come, done]
  rfl

theorem Host.follow_ask (thread : Thread) (next : Reply → Script)
    (come : host.registry = registry) (done : request.run registry = (.ok success, changed)) :
    host.follow thread (.ask request next)
      = (success.reply :: ((host.after thread changed).follow thread (next success.reply)).1,
        ((host.after thread changed).follow thread (next success.reply)).2) := by
  simp only [Host.follow, Host.call_done come done]

theorem Host.completes_stop : host.Completes thread .stop host :=
  ⟨nofun, rfl⟩

theorem Host.Completes.ask {final : Host} (come : host.registry = registry)
    (done : request.run registry = (.ok success, changed)) (sound : success.Sound)
    (rest : (host.after thread changed).Completes thread (next success.reply) final) :
    host.Completes thread (.ask request next) final := by
  have followed := Host.follow_ask thread next come done
  constructor
  · rw [followed]
    intro reply member
    rcases List.mem_cons.1 member with rfl | later
    · exact Success.reply_isFailure sound
    · exact rest.replies reply later
  · rw [followed]
    exact rest.final

theorem Host.Completes.again {final : Host} (done : request.run registry = (.ok success, changed))
    (sound : success.Sound)
    (rest : (host.after thread changed).Completes thread (next success.reply) final) :
    (host.after thread registry).Completes thread (.ask request next) final :=
  .ask host.registry_after done sound (by rwa [Host.after_after])

end

/-- A string as it was returned, with the zero byte behind it. -/
def Reply.pointer : Reply → StringPointer
  | string bytes => bytes.map (· ++ [0])
  | _ => none

def Reply.amount : Reply → Nat
  | size count | copied count _ => count.toNatClampNeg
  | _ => 0

/-- A block with the contents that were found in it afterwards. -/
def Block.refilled : Block → Reply → Block
  | bytes _, .copied _ contents => bytes contents
  | block, _ => block

/-- The block is memory of so many bytes, in which anything may be found; for no bytes the null
    pointer does as well. -/
inductive Block.Holds : Nat → Block → Prop where
  | bytes (contents : Bytes) : Holds contents.length (.bytes contents)
  | null : Holds 0 (.null 0)

theorem receiveText_pointer {text : String} (whole : Text.Whole text) :
    receiveText (Reply.string (some (Text.utf8 text))).pointer = .ok text := by
  have visible : ∀ byte ∈ Text.utf8 text, decide (byte ≠ 0) = true := by
    intro byte member
    rw [decide_eq_true_iff]
    rintro rfl
    exact whole member
  have seen : Bytes.beforeNul (Text.utf8 text ++ [0]) = Text.utf8 text := by
    rw [Bytes.beforeNul, List.takeWhile_append_of_pos visible]
    exact List.append_nil _
  simp only [Reply.pointer, Option.map_some, receiveText, receiveBytes, seen, bind, Except.bind,
    Text.ofUtf8?_utf8]

theorem amount_size {count : Nat} (small : count < 9223372036854775808) :
    (Success.size count).reply.amount = count :=
  Int64.toNatClampNeg_ofNat_of_lt small

/-- Memory of the right size takes all of an argument and hands it over again. -/
theorem Block.Holds.carries {block : Block} {arg : Bytes} (holds : block.Holds arg.length) :
    ∃ contents, receiveBlock block = .ok contents ∧
      receiveBlock (block.refilled (Success.copied arg.length (fill contents arg)).reply)
        = .ok arg := by
  generalize same : arg.length = size at holds
  cases holds with
  | bytes contents =>
      have filled : fill contents arg = arg := by
        rw [fill, same, List.drop_length, List.append_nil, ← same, List.take_length]
      exact ⟨contents, rfl, congrArg Except.ok filled⟩
  | null =>
      obtain rfl := List.eq_nil_of_length_eq_zero same
      exact ⟨[], rfl, rfl⟩

/-- Carries the argument at a place across, in a block that the caller lends once he has its size,
    and goes on. -/
def carryArgument (target source : Handle) (lent : Nat → Block) (place : Nat) (next : Script) :
    Script :=
  .ask (.getSize source (.ofNat place)) fun size =>
    .ask (.getBlock source (.ofNat place) (lent size.amount)) fun found =>
      .ask (.pushBlock target ((lent size.amount).refilled found)) fun _ => next

/-- Carries arguments across, from a place on and so many of them. -/
def carryArguments (target source : Handle) (lent : Nat → Nat → Block) (place : Nat) :
    Nat → Script
  | 0 => .stop
  | left + 1 =>
      carryArgument target source (lent place) place
        (carryArguments target source lent (place + 1) left)

/-- Copies a payload by way of the caller. -/
def copying (target source : Handle) (lent : Nat → Nat → Block) : Script :=
  .ask (.clear target) fun _ =>
    .ask (.getJson source) fun written =>
      .ask (.setJson target written.pointer) fun _ =>
        .ask (.count source) fun count =>
          carryArguments target source lent 0 count.amount

section

variable {registry : Registry} {target source : Handle} {before object : Object}
  {request : Request} {success : Success}

theorem Request.run_source (apart : target ≠ source)
    (stored : registry.entries[source]? = some object) (about : request.half?.isSome)
    (named : request.names = [source])
    (works : request.work object.payload = .ok (success, object.payload)) (payload : Payload) :
    request.run (registry.withPayload target payload)
      = (.ok success, registry.withPayload target payload) := by
  have live : (registry.withPayload target payload).entries[source]? = some object := by
    rw [Registry.getElem?_entries_withPayload, if_neg apart, stored]
  rw [run_of_live live about named, act_ok works, Registry.withPayload_self live]

theorem Request.run_target (live : registry.entries[target]? = some before)
    (about : request.half?.isSome) (named : request.names = [target]) {payload changed : Payload}
    (works : request.work payload = .ok (success, changed)) :
    request.run (registry.withPayload target payload)
      = (.ok success, registry.withPayload target changed) := by
  have found := Registry.entries_withPayload live payload
  rw [run_of_live found about named, Object.payload_withPayload, act_ok works,
    Registry.withPayload_withPayload]

section

variable {host : Host} {thread : Thread} (apart : target ≠ source)
  (live : registry.entries[target]? = some before)
  (stored : registry.entries[source]? = some object) (fits : object.payload.Fits)
include apart live stored fits

theorem carryArgument_completes {front back : List Bytes} {arg : Bytes}
    (parts : object.payload.args = front ++ arg :: back) {lent : Nat → Block}
    (lends : (lent arg.length).Holds arg.length) {next : Script} {final : Host}
    (rest : (host.after thread (registry.withPayload target
      { object.payload with args := front ++ [arg] })).Completes thread next final) :
    (host.after thread
        (registry.withPayload target { object.payload with args := front })).Completes thread
      (carryArgument target source lent front.length next) final := by
  have small : arg.length < 9223372036854775808 := fits.sizes arg (by simp [parts])
  have found := Payload.get_behind parts fits.count
  obtain ⟨contents, received, handed⟩ := lends.carries
  have sized := Request.work_getSize source found
  have copied := Request.work_getBlock source received found
  have pushed : (Request.pushBlock target ((lent arg.length).refilled
      (Success.copied arg.length (fill contents arg)).reply)).work
      { object.payload with args := front }
        = .ok (.done, { object.payload with args := front ++ [arg] }) := by
    simp only [Request.work, handed]
    rfl
  refine .again (Request.run_source apart stored rfl rfl sized _) small ?_
  rw [amount_size small]
  refine .again (Request.run_source apart stored rfl rfl copied _) small ?_
  exact .again (Request.run_target live rfl rfl pushed) trivial rest

theorem carryArguments_completes {lent : Nat → Nat → Block}
    (lends : ∀ place size, (lent place size).Holds size) {front back : List Bytes}
    (parts : object.payload.args = front ++ back) :
    (host.after thread
        (registry.withPayload target { object.payload with args := front })).Completes thread
      (carryArguments target source lent front.length back.length)
      (host.after thread (registry.withPayload target object.payload)) := by
  -- What is in front has been carried across already; the induction is on what is left.
  induction back generalizing front with
  | nil =>
      rw [List.append_nil] at parts
      rw [← parts]
      exact Host.completes_stop
  | cons arg back ih =>
      have further : object.payload.args = (front ++ [arg]) ++ back := by
        rw [parts, List.append_assoc]
        rfl
      have rest := ih further
      rw [List.length_append] at rest
      exact carryArgument_completes apart live stored fits parts (lends _ _) rest

end

theorem copying_completes {host : Host} {thread : Thread} {lent : Nat → Nat → Block}
    (lends : ∀ place size, (lent place size).Holds size) (apart : target ≠ source)
    (live : host.registry.entries[target]? = some before)
    (stored : host.registry.entries[source]? = some object) (fits : object.payload.Fits)
    (document : Json.Document Json.Number.IsWord Json.maxDepth object.payload.json)
    (isObject : object.payload.json.isObject = true) :
    host.Completes thread (copying target source lent)
      (host.after thread (host.registry.withPayload target object.payload)) := by
  have whole := object.payload.whole_jsonText
  have counted : object.payload.count < 9223372036854775808 := fits.count
  have cleared : (Request.clear target).run host.registry
      = (.ok .done, host.registry.withPayload target before.payload.clear) := by
    have ran : (Request.clear target).run (host.registry.withPayload target before.payload) = _ :=
      Request.run_target live rfl rfl rfl
    rwa [Registry.withPayload_self live] at ran
  have written : (Request.getJson source).work object.payload
      = .ok (.string (Text.utf8 object.payload.jsonText), object.payload) := by
    simp only [Request.work, returnText_eq_ok whole]
    rfl
  have read : (Request.setJson target
      (Success.string (Text.utf8 object.payload.jsonText)).reply.pointer).work before.payload.clear
      = .ok (.done, { object.payload with args := [] }) := by
    have accepted : before.payload.clear.setJsonText object.payload.jsonText = _ :=
      before.payload.clear.setJsonText_text document isObject
    simp only [Request.work, Success.reply, receiveText_pointer whole, accepted, bind, Except.bind]
    rfl
  have told : (Request.count source).work object.payload
      = .ok (.size object.payload.count, object.payload) := rfl
  have all : object.payload.args = [] ++ object.payload.args := rfl
  refine .ask rfl cleared trivial ?_
  refine .again (Request.run_source apart stored rfl rfl written _) trivial ?_
  refine .again (Request.run_target live rfl rfl read) trivial ?_
  refine .again (Request.run_source apart stored rfl rfl told _) counted ?_
  rw [amount_size counted]
  exact carryArguments_completes apart live stored fits lends all

end

/-- To copy a payload by way of the caller comes to the same as the request for a copy. Every call
    of it succeeds, whatever bytes there are among the arguments and in the memory that is lent,
    and even where the null pointer is lent for nothing. The object that is copied to keeps its
    kind and its names, and beside its payload nothing changes. -/
theorem copy_by_caller_is_assignment {environment : Environment} {host : Host}
    (reachable : Reachable environment host) (thread : Thread) {target source : Handle}
    (apart : target ≠ source) (known : target ∈ host.registry.liveHandles) {object : Object}
    (stored : host.registry.lookup source = .ok object)
    (noFloats : object.payload.json.isExact = true) (fits : object.payload.Fits)
    {lent : Nat → Nat → Block} (lends : ∀ place size, (lent place size).Holds size) :
    let copied := host.follow thread (copying target source lent)
    let assigned := host.call thread (.request (.assign target source))
    (∀ reply ∈ copied.1, reply.isFailure = false) ∧ assigned.1 = .code 0 ∧
      copied.2 = assigned.2 ∧
      ∃ before, host.registry.lookup target = .ok before ∧
        host.registry.PayloadReplaced copied.2.registry target before object.payload := by
  intro copied assigned
  obtain ⟨before, found⟩ := Registry.mem_liveHandles.1 known
  have live := Registry.lookup_eq_ok_iff.1 found
  have given := Registry.lookup_eq_ok_iff.1 stored
  have exactly : object.payload.ReadExactly := ⟨reachable.read _ _ given, noFloats⟩
  have isObject := (reachable.wellFormed _ _ given).document
  have completes : host.Completes thread (copying target source lent) _ :=
    copying_completes lends apart live given fits exactly.document isObject
  have done : (Request.assign target source).run host.registry
      = (.ok .done, host.registry.withPayload target object.payload) := by
    rw [Request.run, Registry.assign_of_live live given]
    rfl
  have called : assigned = (.code 0, host.after thread _) := Host.call_done rfl done
  have final : copied.2 = host.after thread _ := completes.final
  refine ⟨completes.replies, congrArg Prod.fst called, ?_, before, found, ?_⟩
  · rw [final, called]
  · rw [final, Host.registry_after]
    exact Registry.payloadReplaced live object.payload

/-- From a payload to a command: two bytes go through a block that held others, and an empty
    argument by the null pointer. -/
theorem payload_carried_to_command :
    let environment : Environment := fun _ => none
    let lent (_ size : Nat) : Block :=
      if size = 0 then .null 0 else .bytes (List.replicate size 7)
    let requests : List Request := [.newPayload, .newCommand (some [97]) (some [98]),
      .setJson 1 (some (Text.utf8 "\x7b\"k\":[1]\x7d")), .pushBlock 1 (.bytes [0, 255]),
      .pushString 1 (some [])]
    let host := ((Host.start environment).runAll 0
      (requests.map fun request => .call (.request request))).2
    let copied := host.follow 0 (copying 2 1 lent)
    Reachable environment host ∧ (2 : Handle) ∈ host.registry.liveHandles ∧
      ∃ object, host.registry.lookup 1 = .ok object ∧ object.payload.json.isExact = true ∧
        object.payload.args = [[0, 255], []] ∧ object.payload.Fits ∧
        (∀ place size, (lent place size).Holds size) ∧
        (∀ reply ∈ copied.1, reply.isFailure = false) ∧ copied.1.length = 10 ∧
        copied.2 = (host.call 0 (.request (.assign 2 1))).2 := by
  intro environment lent requests host copied
  have reachable : Reachable environment host := Reachable.start.runAll (by decide) _
  have known : (2 : Handle) ∈ host.registry.liveHandles := by decide +kernel
  have lends : ∀ place size, (lent place size).Holds size := by
    intro place size
    show Block.Holds size (if size = 0 then _ else _)
    split
    · next none =>
        subst none
        exact .null
    · have holds := Block.Holds.bytes (List.replicate size 7)
      rwa [List.length_replicate] at holds
  have source : (1 : Handle) ∈ host.registry.liveHandles := by decide +kernel
  obtain ⟨object, stored⟩ := Registry.mem_liveHandles.1 source
  have shown : (host.registry.lookup 1).toOption.map
      (fun object => (object.payload.json.isExact, object.payload.args))
        = some (true, [[0, 255], []]) := by decide +kernel
  rw [stored] at shown
  obtain ⟨noFloats, args⟩ := Prod.mk.inj (Option.some.inj shown)
  have fits : object.payload.Fits := ⟨by rw [args]; decide, by rw [args]; decide⟩
  obtain ⟨replies, -, same, -⟩ := copy_by_caller_is_assignment reachable 0 (by decide) known stored
    noFloats fits lends
  exact ⟨reachable, known, object, stored, noFloats, args, fits, lends, replies,
    by decide +kernel, same⟩

end Boundary

end PayloadExchange
