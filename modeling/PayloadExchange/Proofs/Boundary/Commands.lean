import PayloadExchange.Proofs.Boundary.Capacity
import PayloadExchange.Proofs.Boundary.StoredObjects
import PayloadExchange.Proofs.Boundary.Complaints

/-! # Commands and their names

Whether a command is made of two strings is decided in a fixed order. The strings are texts before
they are identifiers, each time the interface before the operation, and room is looked for last.
`Heeds` follows this order through the checks. A command that was made gives its two strings back
and knows them again, until it is removed.
-/

namespace PayloadExchange

open Registry (Event insertions)
open Text (utf8)

namespace Boundary

/-- What is seen of a string; of the null pointer that is nothing. -/
def bytesSeen (pointer : StringPointer) : Bytes := (pointer.map Bytes.beforeNul).getD []

/-- A reason to refuse, and how it is worded. -/
structure Objection where
  applies : Prop
  wording : Bytes

/-- The wording is that of the first objection that applies. -/
def FirstOf (objections : List Objection) (wording : Bytes) : Prop :=
  ∃ before objection after, objections = before ++ objection :: after ∧
    objection.applies ∧ objection.wording = wording ∧ ∀ earlier ∈ before, ¬ earlier.applies

def objectionsToPointer (pointer : StringPointer) : List Objection :=
  [⟨pointer = none, utf8 "Invalid argument: unexpected NULL string"⟩,
    ⟨∀ text, utf8 text ≠ bytesSeen pointer,
      utf8 "Invalid argument: string is not valid UTF-8"⟩]

def objectionsToName (name : Bytes) : List Objection :=
  [⟨name = [], utf8 "Invalid argument: identifiers must not be empty"⟩,
    ⟨∃ byte ∈ name, Identifier.isAllowed byte = false,
      utf8 "Invalid argument: \"" ++ name
        ++ utf8 "\" is not a valid identifier; it contains characters outside [a-zA-Z0-9_]"⟩]

/-- No room is left under a limit. -/
def objectionToRoom (limit : UInt32) (live : Nat) : Objection :=
  ⟨limit ≠ 0 ∧ limit.toNat ≤ live,
    utf8 ("Invalid operation: handle table is full (" ++ toString limit.toNat
      ++ " live handles)")⟩

/-- What is wrong with the strings for a command, in the order in which it is found. -/
def objectionsToStrings (interface operation : StringPointer) : List Objection :=
  objectionsToPointer interface ++ (objectionsToPointer operation
    ++ (objectionsToName (bytesSeen interface) ++ objectionsToName (bytesSeen operation)))

def IsName (pointer : StringPointer) : Prop :=
  ∃ memory, pointer = some memory ∧ Identifier.Valid memory.beforeNul

/-- A value comes out only if no objection applies, and a fault words the first that does. -/
def Heeds {α : Type} (objections : List Objection) : Except Fault α → Prop
  | .ok _ => ∀ objection ∈ objections, ¬ objection.applies
  | .error fault => fault.Clean ∧ FirstOf objections (utf8 fault.report.display)

namespace Heeds

variable {α β : Type} {objections others : List Objection} {objection : Objection}
  {result : Except Fault α}

theorem bind (first : Heeds objections result) {next : α → Except Fault β}
    (second : ∀ value, result = .ok value → Heeds others (next value)) :
    Heeds (objections ++ others) (result >>= next) := by
  cases result with
  | error fault =>
      obtain ⟨clean, before, objection, after, rfl, applies, wording, passed⟩ := first
      exact ⟨clean, before, objection, after ++ others, by simp, applies, wording, passed⟩
  | ok value =>
      have heeded := second value rfl
      show Heeds (objections ++ others) (next value)
      cases outcome : next value with
      | ok last =>
          rw [outcome] at heeded
          intro objection member
          exact (List.mem_append.1 member).elim (first objection) (heeded objection)
      | error fault =>
          rw [outcome] at heeded
          obtain ⟨clean, before, objection, after, rfl, applies, wording, passed⟩ := heeded
          refine ⟨clean, objections ++ before, objection, after, by simp, applies, wording, ?_⟩
          intro earlier member
          exact (List.mem_append.1 member).elim (first earlier) (passed earlier)

theorem map (heeds : Heeds objections result) (f : α → β) : Heeds objections (f <$> result) := by
  cases result with
  | ok value => exact heeds
  | error fault => exact heeds

theorem skip (spared : ¬ objection.applies) (heeds : Heeds objections result) :
    Heeds (objection :: objections) result := by
  have passed : Heeds [objection] (Except.ok () : Except Fault Unit) := by
    intro other member
    rwa [List.mem_singleton.1 member]
  exact passed.bind fun _ _ => heeds

theorem refused {fault : Fault} (clean : fault.Clean) (applies : objection.applies)
    (wording : objection.wording = utf8 fault.report.display) :
    Heeds (objection :: objections) (.error fault : Except Fault α) :=
  ⟨clean, [], objection, objections, rfl, applies, wording, nofun⟩

theorem ok_iff (heeds : Heeds objections result) :
    (∃ value, result = .ok value) ↔ ∀ objection ∈ objections, ¬ objection.applies := by
  cases result with
  | ok value => exact ⟨fun _ => heeds, fun _ => ⟨value, rfl⟩⟩
  | error fault =>
      obtain ⟨-, before, objection, after, rfl, applies, -, -⟩ := heeds
      refine ⟨nofun, fun none => absurd applies (none objection ?_)⟩
      exact List.mem_append_right before List.mem_cons_self

end Heeds

theorem small_of_isAllowed {byte : UInt8} (allowed : Identifier.isAllowed byte = true) :
    byte.toNat < 0x80 := by
  simp only [Identifier.isAllowed, Bool.or_eq_true, Bool.and_eq_true, decide_eq_true_eq,
    beq_iff_eq, UInt8.le_iff_toNat_le, ← UInt8.toNat_inj] at allowed
  have bounds : (0x7a : UInt8).toNat = 0x7a ∧ (0x5a : UInt8).toNat = 0x5a ∧
    (0x39 : UInt8).toNat = 0x39 ∧ (0x5f : UInt8).toNat = 0x5f := by decide
  omega

theorem utf8_of_receiveText {pointer : StringPointer} {text : String}
    (received : receiveText pointer = .ok text) : utf8 text = bytesSeen pointer := by
  obtain ⟨memory, rfl, read⟩ := Option.bind_eq_some_iff.1 (receiveText_eq_ok_iff.1 received)
  exact Text.utf8_of_ofUtf8? read

theorem receiveText_heeds (pointer : StringPointer) :
    Heeds (objectionsToPointer pointer) (receiveText pointer) := by
  cases received : receiveText pointer with
  | error fault =>
      rcases receiveText_eq_error_iff.1 received with ⟨rfl, rfl⟩ | ⟨⟨memory, rfl, unread⟩, rfl⟩
      · exact .refused (Fault.clean_of_none rfl) rfl rfl
      · refine .skip nofun (.refused (Fault.clean_of_none rfl) (fun text same => ?_) rfl)
        rw [← show utf8 text = memory.beforeNul from same, Text.ofUtf8?_utf8] at unread
        cases unread
  | ok text =>
      have read := utf8_of_receiveText received
      refine .skip ?_ (.skip (fun none => none text read) (List.forall_mem_nil _))
      rintro rfl
      cases received

theorem utf8_display_illegalIdentifier (text : String) :
    utf8 (Fault.illegalIdentifier text).report.display = utf8 "Invalid argument: \"" ++ utf8 text
      ++ utf8 "\" is not a valid identifier; it contains characters outside [a-zA-Z0-9_]" := by
  rw [← Text.utf8_append, ← Text.utf8_append]
  change utf8 ("Invalid argument: " ++ ("\"" ++ text ++ _)) = _
  rw [← String.append_assoc, ← String.append_assoc]
  rfl

theorem check_heeds {text : String} (whole : Text.Whole text) :
    Heeds (objectionsToName (utf8 text)) (Identifier.check text) := by
  by_cases empty : utf8 text = []
  · simp only [Identifier.check, empty, List.isEmpty_nil, if_true]
    exact .refused (Fault.clean_of_none rfl) rfl rfl
  · refine .skip empty ?_
    by_cases legal : ∀ byte ∈ utf8 text, Identifier.isAllowed byte = true
    · rw [(Identifier.check_eq_ok_iff text).2 ⟨empty, legal⟩]
      refine .skip ?_ (List.forall_mem_nil _)
      rintro ⟨byte, member, illegal⟩
      exact absurd (legal byte member) (illegal ▸ Bool.false_ne_true)
    · have refused : Identifier.check text = .error (.illegalIdentifier text) := by
        simp [Identifier.check, empty, legal]
      rw [refused]
      refine .refused ?_ ?_ (utf8_display_illegalIdentifier text).symm
      · intro quoted same
        exact Option.some.inj same ▸ whole
      · simpa using legal

/-- The object that two strings are to make. -/
def commandOf (interface operation : StringPointer) : Except Fault Object := do
  let interface ← receiveText interface
  let operation ← receiveText operation
  return .command (← Command.make interface operation)

theorem whole_of_bytesSeen {text : String} {pointer : StringPointer}
    (read : utf8 text = bytesSeen pointer) : Text.Whole text := by
  rw [Text.Whole, read]
  cases pointer with
  | none => exact List.not_mem_nil
  | some memory => exact zero_not_mem_beforeNul memory

theorem run_newCommand (interface operation : StringPointer) (registry : Registry) :
    (Request.newCommand interface operation).run registry
      = Request.storing registry (commandOf interface operation) := rfl

theorem commandOf_heeds (interface operation : StringPointer) :
    Heeds (objectionsToStrings interface operation) (commandOf interface operation) := by
  refine (receiveText_heeds interface).bind fun first received => ?_
  refine (receiveText_heeds operation).bind fun second also => ?_
  have whole := whole_of_bytesSeen (utf8_of_receiveText received)
  have alsoWhole := whole_of_bytesSeen (utf8_of_receiveText also)
  rw [← utf8_of_receiveText received, ← utf8_of_receiveText also]
  have checked := (check_heeds whole).bind fun _ _ =>
    (check_heeds alsoWhole).map fun _ => (⟨first, second, {}⟩ : Command)
  exact checked.map Object.command

theorem commandOf_eq_ok {interface operation : StringPointer} {object : Object}
    (made : commandOf interface operation = .ok object) : ∃ first second : String,
      object = .command ⟨first, second, .empty⟩ ∧ utf8 first = bytesSeen interface ∧
      utf8 second = bytesSeen operation := by
  obtain ⟨first, received, made⟩ := ok_of_bind made
  obtain ⟨second, also, made⟩ := ok_of_bind made
  obtain ⟨command, named, ⟨⟩⟩ := ok_of_bind made
  obtain ⟨-, -, named⟩ := ok_of_bind named
  obtain ⟨-, -, named⟩ := ok_of_bind named
  obtain rfl := Except.ok.inj named
  exact ⟨first, second, rfl, utf8_of_receiveText received, utf8_of_receiveText also⟩

theorem insert_heeds (registry : Registry) (object : Object) :
    Heeds [objectionToRoom registry.config.maxLiveHandles registry.count]
      (registry.insert object) := by
  cases inserted : registry.insert object with
  | ok stored =>
      have room := (Registry.insert_eq_ok inserted).1
      refine .skip ?_ (List.forall_mem_nil _)
      rintro ⟨limited, reached⟩
      rcases Registry.isFull_eq_false_iff.1 room with unlimited | below
      · exact limited unlimited
      · exact absurd below (Nat.not_lt_of_le reached)
  | error fault =>
      obtain ⟨full, rfl⟩ := Registry.insert_eq_error inserted
      refine .refused (Fault.clean_of_none rfl) ?_ ?_
      · simpa [Registry.isFull, objectionToRoom] using full
      · exact congrArg utf8 (Fault.display_registryFull _).symm

theorem isName_iff (pointer : StringPointer) : IsName pointer ↔
    (∀ objection ∈ objectionsToPointer pointer, ¬ objection.applies) ∧
      ∀ objection ∈ objectionsToName (bytesSeen pointer), ¬ objection.applies := by
  simp only [objectionsToPointer, objectionsToName, List.forall_mem_cons, List.not_mem_nil,
    false_implies, implies_true, and_true]
  constructor
  · rintro ⟨memory, rfl, nonempty, allowed⟩
    refine ⟨⟨nofun, fun unread => ?_⟩, nonempty, ?_⟩
    · obtain ⟨text, read⟩ := Text.exists_text_of_small fun byte member =>
        small_of_isAllowed (allowed byte member)
      exact unread text read
    · rintro ⟨byte, member, illegal⟩
      exact absurd (allowed byte member) (illegal ▸ Bool.false_ne_true)
  · rintro ⟨⟨given, -⟩, nonempty, legal⟩
    obtain ⟨memory, rfl⟩ := Option.ne_none_iff_exists'.1 given
    refine ⟨memory, rfl, nonempty, fun byte member => ?_⟩
    exact Bool.of_not_eq_false fun illegal => legal ⟨byte, member, illegal⟩

theorem unobjected_iff (interface operation : StringPointer) (limit : UInt32) (live : Nat) :
    (∀ objection ∈ objectionsToStrings interface operation ++ [objectionToRoom limit live],
      ¬ objection.applies)
    ↔ IsName interface ∧ IsName operation ∧ (limit = 0 ∨ live < limit.toNat) := by
  have room : ¬ (objectionToRoom limit live).applies ↔ limit = 0 ∨ live < limit.toNat := by
    simp only [objectionToRoom, not_and, Nat.not_le]
    exact Decidable.or_iff_not_imp_left.symm
  simp only [objectionsToStrings, List.forall_mem_append, List.forall_mem_singleton, room,
    isName_iff]
  constructor
  · rintro ⟨⟨first, second, third, fourth⟩, last⟩
    exact ⟨⟨first, third⟩, ⟨second, fourth⟩, last⟩
  · rintro ⟨⟨first, third⟩, ⟨second, fourth⟩, last⟩
    exact ⟨⟨first, second, third, fourth⟩, last⟩

/-- Behind the handle is a command that gives these two strings as its names, and that knows them
    from all others. -/
structure Host.Names (host : Host) (handle : Handle) (interface operation : Bytes) : Prop where
  kind : ∀ thread, (host.call thread (.kind handle)).1 = .kind .command
  interfaceOf : ∀ thread,
    (host.call thread (.request (.interfaceOf handle))).1 = .string (some interface)
  operationOf : ∀ thread,
    (host.call thread (.request (.operationOf handle))).1 = .string (some operation)
  interfaceIs : ∀ (thread : Thread) (memory : Bytes),
    (host.call thread (.request (.interfaceIs handle (some memory)))).1
      = .code (if memory.beforeNul = interface then 1 else 0)
  operationIs : ∀ (thread : Thread) (memory : Bytes),
    (host.call thread (.request (.operationIs handle (some memory)))).1
      = .code (if memory.beforeNul = operation then 1 else 0)

namespace Host

variable {host : Host} {handle : Handle}

theorem call_comparison {command : Command} {name : Command → String} {request : Request}
    {memory : Bytes} (stored : host.registry.lookup handle = .ok (.command command))
    (runs : request.run host.registry
      = Request.receiving host.registry (receiveBytes (some memory)) fun bytes =>
        Request.reading host.registry handle fun object => do
          return .truth (utf8 (name (← object.asCommand)) == bytes)) (thread : Thread) :
    (host.call thread (.request request)).1
      = .code (if memory.beforeNul = utf8 (name command) then 1 else 0) := by
  rw [call_reading stored runs rfl thread, Success.reply]
  by_cases same : memory.beforeNul = utf8 (name command)
  · simp [same]
  · simp [same, Ne.symm same]

theorem names_of_stored {command : Command}
    (stored : host.registry.lookup handle = .ok (.command command))
    (interface : Text.Whole command.interface) (operation : Text.Whole command.operation) :
    host.Names handle (utf8 command.interface) (utf8 command.operation) where
  kind thread := by
    rw [call, Registry.kindOf, Registry.lookup_eq_ok_iff.1 stored]
    rfl
  interfaceOf := call_name Command.interface stored interface rfl
  operationOf := call_name Command.operation stored operation rfl
  interfaceIs thread memory := call_comparison stored rfl thread
  operationIs thread memory := call_comparison stored rfl thread

theorem names_of_retains {command : Command}
    (kept : host.registry.Retains handle (.command command))
    (interface : Text.Whole command.interface) (operation : Text.Whole command.operation) :
    host.Names handle (utf8 command.interface) (utf8 command.operation) := by
  obtain ⟨found, stored, kind, names⟩ := kept.stored
  cases found with
  | data payload => cases kind
  | command other =>
      obtain ⟨first, second⟩ := Prod.mk.inj (Option.some.inj names)
      have named := names_of_stored stored
      rw [first, second] at named
      exact named interface operation

end Host

/-- A command with these names and nothing else has come into being behind the handle. They stay
    its names until it is removed, unless the handle is issued anew, for which the numbers would
    have to run out. -/
structure Host.Creates (before after : Host) (events : List Event) (fresh : Handle)
    (interface operation : Bytes) : Prop where
  absent : fresh ∉ before.registry.liveHandles
  stored : ∃ first second : String,
    after.registry.lookup fresh = .ok (.command ⟨first, second, .empty⟩) ∧
      utf8 first = interface ∧ utf8 second = operation
  others : ∀ other, other ≠ fresh →
    after.registry.lookup other = before.registry.lookup other
  names : ∀ (further : List Event) (later : Host), Chronicled after further later →
    (∀ event ∈ further, ¬ event.Withdraws fresh) →
    insertions (events ++ [.issued fresh] ++ further) ≤ 18446744073709551615
      ∨ .issued fresh ∉ further →
    later.Names fresh interface operation

namespace Host

variable {host : Host} {interface operation : StringPointer}

theorem call_newCommand_ok {fresh : Handle} {grown : Registry}
    (outcome : commandOf interface operation >>= host.registry.insert = .ok (fresh, grown))
    (thread : Thread) :
    let asked : Call := .request (.newCommand interface operation)
    (host.call thread asked).1 = .handle fresh ∧ (host.call thread asked).2.registry = grown ∧
      asked.events host.registry = [.issued fresh] := by
  intro asked
  have ran : (Request.newCommand interface operation).run host.registry
      = (.ok (.handle fresh), grown) := by
    rw [run_newCommand, Request.storing, outcome]
  have done : ((Request.newCommand interface operation).run host.registry).1
      = .ok (.handle fresh) := congrArg Prod.fst ran
  refine ⟨request_ok done, ?_, ?_⟩
  · rw [call, request_registry, ran]
  · rw [Call.events, ran, Request.events]

theorem call_newCommand_error {fault : Fault} (clean : fault.Clean)
    (outcome : commandOf interface operation >>= host.registry.insert = .error fault)
    (thread : Thread) :
    let after := host.call thread (.request (.newCommand interface operation))
    after.1 = .handle 0 ∧ after.2.registry = host.registry ∧
      after.2.explain thread = some (utf8 fault.report.display) := by
  intro after
  have ran : (Request.newCommand interface operation).run host.registry
      = (.error fault, host.registry) := by
    rw [run_newCommand, Request.storing, outcome]
  obtain ⟨reply, kept⟩ : after.1 = .handle 0 ∧ after.2.registry = host.registry := call_error ran
  exact ⟨reply, kept, explain_request_error clean (congrArg Prod.fst ran)⟩

theorem creates_of_inserted {environment : Environment} {events : List Event}
    (chronicled : Chronicled (.start environment) events host)
    (few : insertions events < 18446744073709551615) {fresh : Handle} {grown : Registry}
    (outcome : commandOf interface operation >>= host.registry.insert = .ok (fresh, grown))
    (thread : Thread) :
    host.Creates (host.call thread (.request (.newCommand interface operation))).2 events fresh
      (bytesSeen interface) (bytesSeen operation) := by
  obtain ⟨-, left, issued⟩ := call_newCommand_ok outcome thread
  obtain ⟨object, made, inserted⟩ := ok_of_bind outcome
  obtain ⟨first, second, rfl, ofInterface, ofOperation⟩ := commandOf_eq_ok made
  have held := Registry.getElem?_entries_insert inserted
  have accounts := chronicled.course.accounts (Nat.le_of_lt few)
  have absent := accounts.numbered.absent (accounts.numbered.insert few inserted).1
  have stored : grown.lookup fresh = .ok (.command ⟨first, second, .empty⟩) := by
    rw [Registry.lookup_eq_ok_iff, (held fresh).2, if_pos rfl]
  rw [← left] at stored
  refine ⟨fun live => absent (Registry.mem_liveHandles_iff_mem.1 live), ?_, ?_, ?_⟩
  · exact ⟨first, second, stored, ofInterface, ofOperation⟩
  · intro other apart
    simp only [left, Registry.lookup, (held other).2, if_neg apart.symm]
  · intro further later thereafter spared once
    have past := chronicled.call thread (.request (.newCommand interface operation))
    rw [issued] at past
    have kept := past.course.retains thereafter.course stored spared once
    rw [← ofInterface, ← ofOperation]
    exact names_of_retains kept (whole_of_bytesSeen ofInterface) (whole_of_bytesSeen ofOperation)

end Host

/-- A request for a command has a handle just if both strings are identifiers and there is room.
    The command is then behind this handle, with an empty payload, and nothing else has changed;
    whatever is done thereafter, until it is removed it gives its names, and knows them from all
    other strings. Otherwise nothing is stored, and the caller reads the first of the objections
    that apply: those to the pointers, to the names, and to the room that is left. -/
theorem commands_made_and_named (environment : Environment) (events : List Event) (host : Host)
    (chronicled : Chronicled (.start environment) events host)
    (few : insertions events < 18446744073709551615) (thread : Thread)
    (interface operation : StringPointer) :
    let limit := Setting.count (environment Contract.maxLiveHandlesVariable) 0
    let accepted := IsName interface ∧ IsName operation ∧
      (limit = 0 ∨ host.registry.count < limit.toNat)
    let after := host.call thread (.request (.newCommand interface operation))
    ((∃ fresh, fresh ≠ 0 ∧ after.1 = .handle fresh) ↔ accepted) ∧
    (∀ fresh, fresh ≠ 0 → after.1 = .handle fresh →
      host.Creates after.2 events fresh (bytesSeen interface) (bytesSeen operation)) ∧
    (¬ accepted → after.1 = .handle 0 ∧ after.2.registry = host.registry ∧
      ∃ wording, after.2.explain thread = some wording ∧
        FirstOf (objectionsToStrings interface operation
          ++ [objectionToRoom limit host.registry.count]) wording) ∧
    Kind.command.tag = 101 := by
  intro limit accepted after
  have config : host.registry.config.maxLiveHandles = limit :=
    congrArg Config.maxLiveHandles chronicled.course.config_eq
  have heeds := (commandOf_heeds interface operation).bind fun object _ =>
    insert_heeds host.registry object
  rw [config] at heeds
  have fits := heeds.ok_iff.trans (unobjected_iff interface operation limit host.registry.count)
  cases outcome : commandOf interface operation >>= host.registry.insert with
  | ok stored =>
      obtain ⟨reply, -, -⟩ : after.1 = .handle stored.1 ∧ _ :=
        Host.call_newCommand_ok outcome thread
      have nonzero : stored.1 ≠ 0 := by
        obtain ⟨object, -, inserted⟩ := ok_of_bind outcome
        rw [(Registry.insert_eq_ok inserted).2.1]
        exact host.registry.issue_ne_zero
      have good : accepted := fits.1 ⟨stored, outcome⟩
      refine ⟨⟨fun _ => good, fun _ => ⟨stored.1, nonzero, reply⟩⟩, ?_, absurd good, rfl⟩
      intro fresh _ answered
      obtain rfl := Reply.handle.inj (reply.symm.trans answered)
      exact Host.creates_of_inserted chronicled few outcome thread
  | error fault =>
      rw [outcome] at heeds
      obtain ⟨reply, kept, told⟩ := Host.call_newCommand_error heeds.1 outcome thread
      have zero {fresh : Handle} (answered : after.1 = .handle fresh) : fresh = 0 :=
        Reply.handle.inj (answered.symm.trans reply)
      refine ⟨⟨?_, fun good => ?_⟩, ?_, fun _ => ⟨reply, kept, _, told, heeds.2⟩, rfl⟩
      · rintro ⟨fresh, nonzero, answered⟩
        exact absurd (zero answered) nonzero
      · obtain ⟨stored, made⟩ := fits.2 good
        cases outcome.symm.trans made
      · intro fresh nonzero answered
        exact absurd (zero answered) nonzero

/-- Under a limit of one: a command whose first string ends at a zero byte, and its names after its
    payload was changed. For the next one the first name is illegal, the second pointer is null and
    no room is left, and it is the pointer that is reported. -/
theorem command_beside_null_pointer :
    let environment : Environment := fun name =>
      if name = Contract.maxLiveHandlesVariable then some [49] else none
    let host := Host.start environment
    let interface : StringPointer := some [105, 111, 0, 255]
    let operation : StringPointer := some [114, 95, 50]
    let made := host.call 0 (.request (.newCommand interface operation))
    let later := (made.2.call 0 (.request (.pushString 1 (some [120])))).2
    let refused := later.call 0 (.request (.newCommand (some [97, 45]) none))
    IsName interface ∧ IsName operation ∧ made.1 = .handle 1 ∧
      host.Creates made.2 [] 1 [105, 111] [114, 95, 50] ∧
      later.Names 1 [105, 111] [114, 95, 50] ∧
      (later.call 3 (.request (.interfaceIs 1 (some [105, 111, 0, 7])))).1 = .code 1 ∧
      (later.call 3 (.request (.operationIs 1 (some [114, 95])))).1 = .code 0 ∧
      refused.1 = .handle 0 ∧ refused.2.registry = later.registry ∧
      refused.2.explain 0 = some (utf8 "Invalid argument: unexpected NULL string") := by
  intro environment host interface operation made later refused
  have begun : Chronicled host [] host := .start
  have named : IsName interface ∧ IsName operation :=
    ⟨⟨_, rfl, by decide, by decide +kernel⟩, ⟨_, rfl, by decide, by decide +kernel⟩⟩
  have issued : made.1 = .handle 1 := by decide +kernel
  obtain ⟨-, creates, -⟩ :=
    commands_made_and_named environment [] host begun (by decide) 0 interface operation
  have created := creates 1 (by decide) issued
  have toMade : Chronicled host [.issued 1] made.2 :=
    begun.call 0 (.request (.newCommand interface operation))
  have toLater : Chronicled made.2 [] later := Chronicled.start.call 0 (.request (.pushString 1 _))
  have names := created.names [] later toLater nofun (.inl (by decide))
  have reached : Chronicled host [.issued 1] later := toMade.call 0 (.request (.pushString 1 _))
  obtain ⟨-, -, refuses, -⟩ :=
    commands_made_and_named environment _ later reached (by decide) 0 (some [97, 45]) none
  obtain ⟨reply, kept, -⟩ := refuses fun accepted => by
    obtain ⟨memory, given, -⟩ := accepted.2.1
    cases given
  exact ⟨named.1, named.2, issued, created, names, names.interfaceIs 3 _, names.operationIs 3 _,
    reply, kept, by decide +kernel⟩

end Boundary

end PayloadExchange
