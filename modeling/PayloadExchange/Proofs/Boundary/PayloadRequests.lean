import PayloadExchange.Proofs.Boundary.DeadCalls
import PayloadExchange.Proofs.Payload.Interleaving

/-! # Requests on one payload

Most requests look at the payload behind a single handle or change it, and have nothing else to
do. What such a request says, and what it makes of the payload, is the same behind every handle
and in objects of either kind.
-/

namespace PayloadExchange.Boundary

open Payload (Half Halved)

namespace Request

/-- The half of a payload that the request is about. -/
def half? : Request → Option Half
  | setJson .. | getJson _ => some .document
  | pushString .. | pushBlock .. | popString _ | popBlock .. | insertString .. | insertBlock ..
  | setString .. | setBlock .. | getString .. | getBlock .. | getSize .. | remove .. | count _
  | clear _ => some .arguments
  | dump _ | delete _ | deleteAll | leakCheck | newCommand .. | interfaceOf _ | operationOf _
  | interfaceIs .. | operationIs .. | newPayload | assign .. => none

/-- What a request says of a payload and leaves of it, or why it fails. A request that is not
    about one payload has nothing to do with it. -/
def work (payload : Payload) : Request → Except Fault (Success × Payload)
  | setJson _ text => do
      let text ← receiveText text
      return (.done, ← payload.setJsonText text)
  | getJson _ => return (.string (← returnText payload.jsonText), payload)
  | pushString _ text => return (.done, payload.push (← receiveBytes text))
  | pushBlock _ block => return (.done, payload.push (← receiveBlock block))
  | popString _ => do
      let (arg, rest) ← payload.pop
      return (.string (← returnArgument arg), rest)
  | popBlock _ block => do
      let contents ← receiveBlock block
      let (arg, rest) ← payload.pop
      return (.copied arg.length (fill contents arg), rest)
  | insertString _ index text => do
      let bytes ← receiveBytes text
      return (.done, ← payload.insert index bytes)
  | insertBlock _ index block => do
      let bytes ← receiveBlock block
      return (.done, ← payload.insert index bytes)
  | setString _ index text => do
      let bytes ← receiveBytes text
      return (.done, ← payload.set index bytes)
  | setBlock _ index block => do
      let bytes ← receiveBlock block
      return (.done, ← payload.set index bytes)
  | getString _ index => do
      let arg ← payload.get index
      return (.string (← returnArgument arg), payload)
  | getBlock _ index block => do
      let contents ← receiveBlock block
      let arg ← payload.get index
      return (.copied arg.length (fill contents arg), payload)
  | getSize _ index => do
      let arg ← payload.get index
      return (.size arg.length, payload)
  | remove _ index => do
      let (_, rest) ← payload.remove index
      return (.done, rest)
  | count _ => .ok (.size payload.count, payload)
  | clear _ => .ok (.done, payload.clear)
  | dump _ | delete _ | deleteAll | leakCheck | newCommand .. | interfaceOf _ | operationOf _
  | interfaceIs .. | operationIs .. | newPayload | assign .. => .ok (.done, payload)

/-- Does the work of a request on a payload; work that fails leaves the payload as it was. -/
def act (payload : Payload) (request : Request) : Except Fault Success × Payload :=
  match request.work payload with
  | .ok (success, changed) => (.ok success, changed)
  | .error fault => (.error fault, payload)

section

variable {payload : Payload} {request : Request}

theorem act_ok {success : Success} {changed : Payload}
    (done : request.work payload = .ok (success, changed)) :
    request.act payload = (.ok success, changed) := by
  rw [act, done]

theorem act_error {fault : Fault} (failed : request.work payload = .error fault) :
    request.act payload = (.error fault, payload) := by
  rw [act, failed]

end

section

variable {payload rest : Payload} {block : Block} {index : Int64} {arg contents : Bytes}
  (handle : Handle)

theorem work_getSize (found : payload.get index = .ok arg) :
    (getSize handle index).work payload = .ok (.size arg.length, payload) := by
  simp only [work, found]
  rfl

theorem work_getBlock (received : receiveBlock block = .ok contents)
    (found : payload.get index = .ok arg) : (getBlock handle index block).work payload
      = .ok (.copied arg.length (fill contents arg), payload) := by
  simp only [work, received, found]
  rfl

theorem work_popBlock (received : receiveBlock block = .ok contents)
    (popped : payload.pop = .ok (arg, rest)) : (popBlock handle block).work payload
      = .ok (.copied arg.length (fill contents arg), rest) := by
  simp only [work, received, popped]
  rfl

theorem work_getString (found : payload.get index = .ok arg) :
    (getString handle index).work payload
      = returnArgument arg >>= fun bytes => .ok (.string bytes, payload) := by
  simp only [work, found]
  rfl

theorem work_popString (popped : payload.pop = .ok (arg, rest)) :
    (popString handle).work payload
      = returnArgument arg >>= fun bytes => .ok (.string bytes, rest) := by
  simp only [work, popped]
  rfl

theorem work_remove (removed : payload.remove index = .ok (arg, rest)) :
    (remove handle index).work payload = .ok (.done, rest) := by
  simp only [work, removed]
  rfl

end

theorem work_join {half : Half} {request : Request} (about : request.half? = some half)
    (own rest : Payload) :
    request.work (half.join own rest) = Prod.map id (half.join · rest) <$> request.work own := by
  cases request with
  | dump | delete | deleteAll | leakCheck | newCommand | interfaceOf | operationOf | interfaceIs
  | operationIs | newPayload | assign => cases about
  | count | clear =>
      obtain rfl := Option.some.inj about
      rfl
  | getJson | pushString | pushBlock =>
      obtain rfl := Option.some.inj about
      simp [work, Half.join, Payload.jsonText, Payload.push]
  | setJson handle text =>
      obtain rfl := Option.some.inj about
      simp [work, Payload.setJsonText_join]
  | popString | popBlock =>
      obtain rfl := Option.some.inj about
      simp [work, Payload.pop_join]
  | insertString handle index text | insertBlock handle index block =>
      obtain rfl := Option.some.inj about
      simp [work, Payload.insert_join]
  | setString handle index text | setBlock handle index block =>
      obtain rfl := Option.some.inj about
      simp [work, Payload.set_join]
  | getString handle index | getBlock handle index block | getSize handle index =>
      obtain rfl := Option.some.inj about
      simp [work, Payload.get_join]
  | remove handle index =>
      obtain rfl := Option.some.inj about
      simp [work, Payload.remove_join]

theorem halved_act : Halved act half? := by
  intro half request about own rest
  rw [act, act, work_join about own rest]
  cases request.work own <;> rfl

/-- A request keeps the document of the payload or reads another from a text. -/
theorem act_json {request : Request} (about : request.half?.isSome) (payload : Payload) :
    (request.act payload).2.json = payload.json ∨
      ∃ text, payload.setJsonText text = .ok (request.act payload).2 := by
  obtain ⟨half, found⟩ := Option.isSome_iff_exists.1 about
  cases half with
  | arguments => exact .inl (halved_act.json_of_arguments found payload)
  | document =>
      cases done : request.work payload with
      | error fault => exact .inl (congrArg (·.2.json) (act_error done))
      | ok outcome =>
          rw [act_ok done]
          cases request with
          | setJson handle text =>
              obtain ⟨read, -, done⟩ := ok_of_bind done
              obtain ⟨changed, set, same⟩ := ok_of_bind done
              obtain rfl := Except.ok.inj same
              exact .inr ⟨read, set⟩
          | getJson handle =>
              obtain ⟨bytes, -, same⟩ := ok_of_bind done
              obtain rfl := Except.ok.inj same
              exact .inl rfl
          | _ => cases found

/-- An argument that is no string is put back, so that nothing was done. -/
theorem popStringFrom_eq_act (payload : Payload) (handle : Handle) :
    popStringFrom payload = (popString handle).act payload := by
  unfold popStringFrom
  cases last : payload.pop with
  | error fault =>
      have failed : (popString handle).work payload = .error fault := by
        simp only [work, last]
        rfl
      rw [act_error failed]
  | ok found =>
      obtain ⟨arg, rest⟩ := found
      have popped := Payload.eq_push_of_pop last
      rw [act, work_popString handle last]
      dsimp only
      cases returnArgument arg with
      | ok bytes => rfl
      | error fault => exact Prod.ext rfl popped.symm

section

variable {registry : Registry} {handle : Handle} {object : Object} {request : Request}
  (live : registry.entries[handle]? = some object)
include live

theorem reading_act {look : Object → Except Fault Success}
    (same : request.work object.payload = (·, object.payload) <$> look object) :
    reading registry handle look = ((request.act object.payload).1,
      registry.withPayload handle (request.act object.payload).2) := by
  rw [reading, Registry.lookup_eq_ok_iff.2 live, act, same]
  show (look object, registry) = _
  cases look object with
  | ok success => exact Prod.ext rfl (Registry.withPayload_self live).symm
  | error fault => exact Prod.ext rfl (Registry.withPayload_self live).symm

theorem changing_act {change : Payload → Except Fault (Success × Payload)}
    (same : request.work object.payload = change object.payload) :
    changing registry handle change = ((request.act object.payload).1,
      registry.withPayload handle (request.act object.payload).2) := by
  rw [changing, Registry.editPayload_of_live live]
  cases done : change object.payload with
  | ok outcome => rw [act_ok (same.trans done)]
  | error fault => rw [act_error (same.trans done)]

theorem refused_act {fault : Fault} (refused : request.work object.payload = .error fault) :
    (.error fault, registry) = ((request.act object.payload).1,
      registry.withPayload handle (request.act object.payload).2) := by
  rw [act_error refused, Registry.withPayload_self live]

theorem receiving_reading_act {α : Type} {received : Except Fault α}
    {look : α → Object → Except Fault Success} (same : request.work object.payload
      = received >>= fun value => (·, object.payload) <$> look value object) :
    receiving registry received (fun value => reading registry handle (look value))
      = ((request.act object.payload).1,
        registry.withPayload handle (request.act object.payload).2) := by
  cases received with
  | ok value => exact reading_act live same
  | error fault => exact refused_act live same

theorem receiving_changing_act {α : Type} {received : Except Fault α}
    {change : α → Payload → Except Fault (Success × Payload)}
    (same : request.work object.payload = received >>= (change · object.payload)) :
    receiving registry received (fun value => changing registry handle (change value))
      = ((request.act object.payload).1,
        registry.withPayload handle (request.act object.payload).2) := by
  cases received with
  | ok value => exact changing_act live same
  | error fault => exact refused_act live same

/-- The request does its work on the payload behind its handle. -/
theorem run_of_live (about : request.half?.isSome) (named : request.names = [handle]) :
    request.run registry = ((request.act object.payload).1,
      registry.withPayload handle (request.act object.payload).2) := by
  cases request with
  | dump | delete | deleteAll | leakCheck | newCommand | interfaceOf | operationOf | interfaceIs
  | operationIs | newPayload | assign => cases about
  | getJson own | getString own index | getSize own index =>
      obtain rfl := (List.cons.inj named).1
      apply reading_act live
      simp [work]
  | count own =>
      obtain rfl := (List.cons.inj named).1
      exact reading_act live rfl
  | getBlock own index block =>
      obtain rfl := (List.cons.inj named).1
      apply receiving_reading_act live
      simp [work]
  | setJson own text | pushString own text | pushBlock own block | popBlock own block
  | insertString own index text | insertBlock own index block | setString own index text
  | setBlock own index block =>
      obtain rfl := (List.cons.inj named).1
      exact receiving_changing_act live rfl
  | remove own index =>
      obtain rfl := (List.cons.inj named).1
      exact changing_act live rfl
  | clear own =>
      obtain rfl := (List.cons.inj named).1
      rw [run]
      exact changing_act live rfl
  | popString own =>
      obtain rfl := (List.cons.inj named).1
      rw [run, Registry.editPayload_of_live live, popStringFrom_eq_act object.payload own]

end

end Request

end PayloadExchange.Boundary
