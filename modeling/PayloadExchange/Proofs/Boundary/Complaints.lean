import PayloadExchange.Proofs.Boundary.OwnedStrings
import PayloadExchange.Proofs.Boundary.PayloadRequests

/-! # What can be wrong with a request

The pointers of a request can be unacceptable, the object can be of the wrong kind, and its
payload can have something against the request. Of each it is said when that is so, and that the
request then fails with the fault.
-/

namespace PayloadExchange

/-- The fault lies in a payload, or in what is to become of it. -/
def Fault.ofPayload : Fault → Bool
  | indexOutOfRange .. | nothingToPop | zeroInArgument | malformedJson _ | notObject => true
  | emptyIdentifier | illegalIdentifier _ | deadHandle _ | notCommand | registryFull _
  | stillLive _ | nullString | nullBlock | notUtf8 | zeroInText | aborted _ => false

theorem Fault.quoted_of_ofPayload {fault : Fault} (last : fault.ofPayload = true) :
    fault.quoted = none := by
  cases fault with
  | illegalIdentifier | aborted => cases last
  | _ => rfl

namespace Boundary

namespace Request

/-- The pointer to a string that a request on objects brings along. -/
def string? : Request → Option StringPointer
  | setJson _ text | interfaceIs _ text | operationIs _ text | pushString _ text
  | insertString _ _ text | setString _ _ text => some text
  | _ => none

/-- The pointer to a block that a request brings along. -/
def block? : Request → Option Block
  | pushBlock _ block | popBlock _ block | insertBlock _ _ block | setBlock _ _ block
  | getBlock _ _ block => some block
  | _ => none

/-- A pointer of the request cannot be accepted, for this fault. -/
inductive Unacceptable (request : Request) : Fault → Prop where
  | nullString : request.string? = some none → Unacceptable request .nullString
  | notUtf8 {handle : Handle} {memory : Bytes} : request = setJson handle (some memory) →
      Text.ofUtf8? memory.beforeNul = none → Unacceptable request .notUtf8
  | nullBlock {size : Nat} : request.block? = some (.null size) → size ≠ 0 →
      Unacceptable request .nullBlock

def needsCommand : Request → Bool
  | interfaceOf _ | operationOf _ | interfaceIs .. | operationIs .. => true
  | _ => false

def misplaced (payload : Payload) (places : Nat) (index : Int64) : Option Fault :=
  if (place? places index).isNone then some (.indexOutOfRange index payload.count) else none

/-- What a payload has against a request, if anything. -/
def complaint (payload : Payload) : Request → Option Fault
  | setJson _ text =>
      match text.bind fun memory => Text.ofUtf8? memory.beforeNul with
      | none => none
      | some text =>
          match Json.parse text with
          | .error error => some (.malformedJson error)
          | .ok json => if json.isObject then none else some .notObject
  | popString _ =>
      match payload.args.getLast? with
      | none => some .nothingToPop
      | some arg => if 0 ∈ arg then some .zeroInArgument else none
  | popBlock .. => if payload.args = [] then some .nothingToPop else none
  | insertString _ index _ | insertBlock _ index _ => misplaced payload (payload.count + 1) index
  | setString _ index _ | setBlock _ index _ | getBlock _ index _ | getSize _ index
  | remove _ index => misplaced payload payload.count index
  | getString _ index =>
      match place? payload.args.length index with
      | none => some (.indexOutOfRange index payload.count)
      | some place => if 0 ∈ payload.args.get place then some .zeroInArgument else none
  | _ => none

end Request

theorem receiveBytes_eq_error_iff {pointer : StringPointer} {fault : Fault} :
    receiveBytes pointer = .error fault ↔ pointer = none ∧ fault = .nullString := by
  cases pointer with
  | none => simp [receiveBytes, eq_comm]
  | some memory => simp [receiveBytes]

theorem receiveText_eq_error_iff {pointer : StringPointer} {fault : Fault} :
    receiveText pointer = .error fault ↔
      pointer = none ∧ fault = .nullString ∨
        (∃ memory, pointer = some memory ∧ Text.ofUtf8? memory.beforeNul = none) ∧
          fault = .notUtf8 := by
  cases pointer with
  | none => simp [receiveText, receiveBytes, bind, Except.bind, eq_comm]
  | some memory =>
      simp only [receiveText, receiveBytes, bind, Except.bind]
      cases read : Text.ofUtf8? memory.beforeNul with
      | none => simp [read, eq_comm]
      | some text => simp [read]

theorem receiveText_eq_ok_iff {pointer : StringPointer} {text : String} :
    receiveText pointer = .ok text ↔
      pointer.bind (fun memory => Text.ofUtf8? memory.beforeNul) = some text := by
  cases pointer with
  | none => simp [receiveText, receiveBytes, bind, Except.bind]
  | some memory =>
      simp only [receiveText, receiveBytes, bind, Except.bind, Option.bind]
      cases read : Text.ofUtf8? memory.beforeNul <;> simp

theorem receiveBlock_eq_error_iff {block : Block} {fault : Fault} :
    receiveBlock block = .error fault ↔
      (∃ size, block = .null size ∧ size ≠ 0) ∧ fault = .nullBlock := by
  cases block with
  | null size =>
      by_cases empty : size = 0
      · simp [receiveBlock, empty]
      · simp [receiveBlock, empty, eq_comm]
  | bytes contents => simp [receiveBlock]

namespace Request

variable {registry : Registry} {request : Request}

theorem unacceptable_iff {fault : Fault} : request.Unacceptable fault ↔
    request.string? = some none ∧ fault = .nullString ∨
    (∃ handle memory, request = setJson handle (some memory) ∧
      Text.ofUtf8? memory.beforeNul = none) ∧ fault = .notUtf8 ∨
    (∃ size, request.block? = some (.null size) ∧ size ≠ 0) ∧ fault = .nullBlock := by
  constructor
  · intro unacceptable
    cases unacceptable with
    | nullString null => exact .inl ⟨null, rfl⟩
    | notUtf8 asks broken => exact .inr (.inl ⟨⟨_, _, asks, broken⟩, rfl⟩)
    | nullBlock null claims => exact .inr (.inr ⟨⟨_, null, claims⟩, rfl⟩)
  · rintro (⟨null, rfl⟩ | ⟨⟨handle, memory, asks, broken⟩, rfl⟩ | ⟨⟨size, null, claims⟩, rfl⟩)
    · exact .nullString null
    · exact .notUtf8 asks broken
    · exact .nullBlock null claims

theorem pointers_eq_error_iff (named : request.names ≠ []) {fault : Fault} :
    request.pointers = .error fault ↔ request.Unacceptable fault := by
  rw [unacceptable_iff]
  cases request with
  | deleteAll | leakCheck | newCommand | newPayload => exact absurd rfl named
  | dump | delete | interfaceOf | operationOf | getJson | popString | getString | getSize | remove
  | count | clear | assign => simp [pointers, string?, block?]
  | interfaceIs handle text | operationIs handle text | pushString handle text
  | insertString handle index text | setString handle index text =>
      simp [pointers, string?, block?, discard_eq_error, receiveBytes_eq_error_iff]
  | setJson handle text =>
      simp [pointers, string?, block?, discard_eq_error, receiveText_eq_error_iff, and_assoc]
  | pushBlock handle block | popBlock handle block | insertBlock handle index block
  | setBlock handle index block | getBlock handle index block =>
      simp [pointers, string?, block?, discard_eq_error, receiveBlock_eq_error_iff]

theorem receiving_fault {α : Type} {received : Except Fault α}
    (accepted : discard received = .ok ()) {proceed : α → Except Fault Success × Registry}
    {complaint : Option Fault} (each : ∀ value, received = .ok value →
      faultOf (proceed value).1 = complaint) :
    faultOf (receiving registry received proceed).1 = complaint := by
  cases received with
  | ok value => exact each value rfl
  | error fault => cases accepted

theorem run_of_bare {handle : Handle} {payload : Payload}
    (accepted : request.pointers = .ok ()) (named : request.names = [handle])
    (live : registry.lookup handle = .ok (.data payload)) (needs : request.needsCommand = true) :
    faultOf (request.run registry).1 = some .notCommand := by
  cases request with
  | interfaceOf own | operationOf own =>
      obtain rfl := (List.cons.inj named).1
      rw [run, reading, live]
      rfl
  | interfaceIs own text | operationIs own text =>
      obtain rfl := (List.cons.inj named).1
      refine receiving_fault accepted fun bytes _ => ?_
      rw [reading, live]
      rfl
  | _ => cases needs

theorem reading_fault {handle : Handle} {object : Object}
    (live : registry.lookup handle = .ok object) (look : Object → Except Fault Success) :
    faultOf (reading registry handle look).1 = faultOf (look object) := by
  rw [reading, live]
  rfl

theorem place_fault (payload : Payload) (places : Nat) (index : Int64) :
    faultOf (payload.place places index) = misplaced payload places index := by
  rw [Payload.place, misplaced]
  cases place? places index <;> rfl

theorem get_fault (payload : Payload) (index : Int64) :
    faultOf (payload.get index) = misplaced payload payload.count index :=
  (faultOf_bind fun _ => rfl).trans (place_fault payload _ index)

theorem set_fault (payload : Payload) (index : Int64) (arg : Bytes) :
    faultOf (payload.set index arg) = misplaced payload payload.count index :=
  (faultOf_bind fun _ => rfl).trans (place_fault payload _ index)

theorem insert_fault (payload : Payload) (index : Int64) (arg : Bytes) :
    faultOf (payload.insert index arg) = misplaced payload (payload.count + 1) index :=
  (faultOf_bind fun _ => rfl).trans (place_fault payload _ index)

theorem remove_fault (payload : Payload) (index : Int64) :
    faultOf (payload.remove index) = misplaced payload payload.count index :=
  (faultOf_bind fun _ => rfl).trans (place_fault payload _ index)

theorem pop_fault (payload : Payload) :
    faultOf payload.pop = if payload.args = [] then some .nothingToPop else none := by
  rw [Payload.pop]
  cases last : payload.args.getLast? with
  | none => simp [faultOf, List.getLast?_eq_none_iff.1 last]
  | some arg =>
      have filled : payload.args ≠ [] := by
        rintro empty
        simp [empty] at last
      simp [faultOf, filled]

theorem setJsonText_fault (payload : Payload) (text : String) :
    faultOf (payload.setJsonText text) = match Json.parse text with
      | .error error => some (.malformedJson error)
      | .ok json => if json.isObject then none else some .notObject := by
  rw [Payload.setJsonText]
  cases Json.parse text with
  | error error => rfl
  | ok json =>
      simp only [Payload.setJson]
      cases json.isObject <;> rfl

theorem returnArgument_fault (arg : Bytes) :
    faultOf (returnArgument arg) = if 0 ∈ arg then some .zeroInArgument else none := by
  rw [returnArgument]
  by_cases zero : 0 ∈ arg
  · rw [if_pos zero, if_pos zero, faultOf]
  · rw [if_neg zero, if_neg zero, faultOf]

theorem returned_fault (arg : Bytes) (payload : Payload) :
    faultOf (returnArgument arg >>= fun bytes => .ok (Success.string bytes, payload))
      = faultOf (returnArgument arg) :=
  faultOf_bind fun _ => rfl

theorem accepted_fault {α : Type} {received : Except Fault α}
    (accepted : discard received = .ok ()) {next : α → Except Fault (Success × Payload)}
    {complaint : Option Fault}
    (each : ∀ value, received = .ok value → faultOf (next value) = complaint) :
    faultOf (received >>= next) = complaint := by
  cases received with
  | ok value => exact each value rfl
  | error fault => cases accepted

/-- The complaints of a payload are the faults of the work on it, once the pointers are accepted. -/
theorem work_fault (about : request.half?.isSome) (accepted : request.pointers = .ok ())
    (payload : Payload) : faultOf (request.work payload) = request.complaint payload := by
  cases request with
  | dump | delete | deleteAll | leakCheck | newCommand | interfaceOf | operationOf | interfaceIs
  | operationIs | newPayload | assign => cases about
  | getJson own =>
      rw [work, returnText_eq_ok payload.whole_jsonText]
      rfl
  | setJson own text =>
      refine accepted_fault accepted fun read received => (faultOf_bind fun _ => rfl).trans ?_
      rw [setJsonText_fault, complaint, receiveText_eq_ok_iff.1 received]
  | pushString | pushBlock => exact accepted_fault accepted fun _ _ => rfl
  | popString own =>
      simp only [work, Payload.pop, complaint]
      cases payload.args.getLast? with
      | none => rfl
      | some arg => exact (returned_fault arg _).trans (returnArgument_fault arg)
  | popBlock own block =>
      refine accepted_fault accepted fun _ _ => ?_
      exact (faultOf_bind fun _ => rfl).trans (pop_fault payload)
  | insertString own index text | insertBlock own index block =>
      refine accepted_fault accepted fun bytes _ => ?_
      exact (faultOf_bind fun _ => rfl).trans (insert_fault payload index bytes)
  | setString own index text | setBlock own index block =>
      refine accepted_fault accepted fun bytes _ => ?_
      exact (faultOf_bind fun _ => rfl).trans (set_fault payload index bytes)
  | getString own index =>
      simp only [work, Payload.get, Payload.place, complaint]
      cases place? payload.args.length index with
      | none => rfl
      | some place => exact (returned_fault _ payload).trans (returnArgument_fault _)
  | getBlock own index block =>
      refine accepted_fault accepted fun _ _ => ?_
      exact (faultOf_bind fun _ => rfl).trans (get_fault payload index)
  | getSize own index => exact (faultOf_bind fun _ => rfl).trans (get_fault payload index)
  | remove own index => exact (faultOf_bind fun _ => rfl).trans (remove_fault payload index)
  | count | clear => rfl

theorem act_fault (payload : Payload) :
    faultOf (request.act payload).1 = faultOf (request.work payload) := by
  rw [act]
  cases request.work payload <;> rfl

/-- What a payload has against a request is what the request fails with, if it comes so far. -/
theorem run_complaint (formed : registry.WellFormed) {handle : Handle} {object : Object}
    (accepted : request.pointers = .ok ()) (named : request.names = [handle])
    (live : registry.lookup handle = .ok object)
    (kind : request.needsCommand = true → object.kind = .command) :
    faultOf (request.run registry).1 = request.complaint object.payload := by
  have stored := Registry.lookup_eq_ok_iff.1 live
  by_cases about : request.half?.isSome
  · rw [run_of_live stored about named, act_fault, work_fault about accepted]
  · cases request with
    | deleteAll | leakCheck | newCommand | newPayload | assign => cases named
    | dump own =>
        obtain rfl := (List.cons.inj named).1
        rw [run, reading_fault live, returnText_eq_ok object.whole_dump]
        rfl
    | delete own =>
        obtain rfl := (List.cons.inj named).1
        rw [run, Registry.delete, Registry.take, stored]
        rfl
    | interfaceOf own | operationOf own =>
        obtain rfl := (List.cons.inj named).1
        rw [run, reading_fault live]
        have whole := formed own object stored
        cases object with
        | data payload => cases kind rfl
        | command command =>
            obtain ⟨interface, operation⟩ := whole.whole_names
            simp only [Object.asCommand, bind, Except.bind, returnText_eq_ok interface,
              returnText_eq_ok operation]
            rfl
    | interfaceIs own text | operationIs own text =>
        obtain rfl := (List.cons.inj named).1
        refine receiving_fault accepted fun bytes _ => ?_
        rw [reading_fault live]
        cases object with
        | data payload => cases kind rfl
        | command command => rfl
    | _ => exact absurd rfl about

theorem Unacceptable.ofPayload {fault : Fault} (unacceptable : request.Unacceptable fault) :
    fault.ofPayload = false := by
  cases unacceptable <;> rfl

theorem misplaced_ofPayload {payload : Payload} {places : Nat} {index : Int64} {fault : Fault}
    (complains : misplaced payload places index = some fault) : fault.ofPayload = true := by
  unfold misplaced at complains
  split at complains
  · obtain rfl := Option.some.inj complains
    rfl
  · cases complains

theorem complaint_ofPayload {payload : Payload} {fault : Fault}
    (complains : request.complaint payload = some fault) : fault.ofPayload = true := by
  cases request with
  | insertString | insertBlock | setString | setBlock | getBlock | getSize | remove =>
      exact misplaced_ofPayload complains
  | setJson | popString | popBlock | getString =>
      simp only [complaint] at complains
      repeat' split at complains
      all_goals cases complains
      all_goals rfl
  | _ => cases complains

end Request

end Boundary

end PayloadExchange
