import PayloadExchange.Proofs.Boundary.ErrorSlots
import PayloadExchange.Proofs.Registry.Course

/-! # The chronicle of a host

The shared registry has a course of its own: requests issue and withdraw handles just as
operations do, and all else that threads do has no part in it. What holds of every course, from
an empty registry on, thus holds of the registry of every host that can be reached.
-/

namespace PayloadExchange

open Registry (Event Course)

namespace Boundary

/-- What a request and its result tell about handles. -/
def Request.events (registry : Registry) : Request → Except Fault Success → List Event
  | newCommand .., .ok (.handle fresh) | newPayload, .ok (.handle fresh) => [.issued fresh]
  | delete handle, .ok _ => [.removed handle]
  | deleteAll, .ok _ => [.cleared registry.count]
  | _, _ => []

def Call.events (registry : Registry) : Call → List Event
  | request asked => asked.events registry (asked.run registry).1
  | kind _ | explain | setError _ | releaseNull | release _ | version | schema => []

namespace Request

variable {start registry : Registry} {events : List Event}

theorem receiving_course {α : Type} {received : Except Fault α}
    {proceed : α → Except Fault Success × Registry} (course : Course start events registry)
    (each : ∀ value, Course start events (proceed value).2) :
    Course start events (receiving registry received proceed).2 := by
  cases received with
  | ok value => exact each value
  | error fault => exact course

theorem storing_course {object : Except Fault Object} (course : Course start events registry)
    {note : Except Fault Success → List Event}
    (stored : ∀ fresh, note (.ok (.handle fresh)) = [.issued fresh])
    (refused : ∀ fault, note (.error fault) = []) :
    Course start (events ++ note (storing registry object).1) (storing registry object).2 := by
  unfold storing
  cases made : object >>= registry.insert with
  | error fault => simpa only [refused, List.append_nil] using course
  | ok grown =>
      cases object with
      | error fault => cases made
      | ok object => simpa only [stored] using course.issued made

theorem run_course (course : Course start events registry) (request : Request) :
    Course start (events ++ request.events registry (request.run registry).1)
      (request.run registry).2 := by
  have quiet {changed : Registry} (further : Course start events changed) :
      Course start (events ++ []) changed := by rwa [List.append_nil]
  cases request with
  | newCommand interface operation => exact storing_course course (fun _ => rfl) fun _ => rfl
  | newPayload => exact storing_course course (fun _ => rfl) fun _ => rfl
  | deleteAll => exact course.cleared
  | delete handle =>
      rw [run]
      cases deleted : registry.delete handle with
      | error fault => exact quiet course
      | ok without =>
          obtain ⟨object, taken⟩ := Registry.delete_eq_ok deleted
          exact course.removed taken
  | dump | leakCheck | interfaceOf | operationOf | getJson | getString | getSize | count =>
      exact quiet course
  | interfaceIs handle text | operationIs handle text | getBlock handle index block =>
      exact quiet (receiving_course course fun _ => course)
  | setJson handle text | pushString handle text | pushBlock handle block
  | popBlock handle block | insertString handle index text | insertBlock handle index block
  | setString handle index text | setBlock handle index block =>
      exact quiet (receiving_course course fun _ => course.editPayload handle _)
  | popString handle => exact quiet (course.editPayload handle _)
  | remove handle index => exact quiet (course.editPayload handle _)
  | clear handle => exact quiet (course.editPayload handle _)
  | assign target source => exact quiet (course.assign target source)

end Request

/-- The hosts that calls of any threads lead to, each with what becomes of handles on the way. -/
inductive Chronicled (start : Host) : List Event → Host → Prop where
  | start : Chronicled start [] start
  | call {events : List Event} {host : Host} (thread : Thread) (call : Call) :
      Chronicled start events host →
      Chronicled start (events ++ call.events host.registry) (host.call thread call).2
  | spawn {events : List Event} {host : Host} :
      Chronicled start events host → Chronicled start events host.startThread.2

theorem Chronicled.course {start host : Host} {events : List Event}
    (chronicled : Chronicled start events host) :
    Course start.registry events host.registry := by
  induction chronicled with
  | start => exact .start
  | @call events host thread call _ course =>
      cases call with
      | request request =>
          rw [Host.call, Host.request_registry]
          exact request.run_course course
      | kind handle | explain | setError text | releaseNull | release bytes | version | schema =>
          -- The other calls leave the registry alone and add no event.
          rw [← List.append_nil events] at course
          exact course
  | spawn _ course => exact course

theorem Reachable.chronicled {environment : Environment} {host : Host}
    (reachable : Reachable environment host) :
    ∃ events, Chronicled (.start environment) events host := by
  induction reachable with
  | start => exact ⟨[], .start⟩
  | @call host thread call _ _ ih =>
      obtain ⟨events, before⟩ := ih
      exact ⟨_, before.call thread call⟩
  | spawn _ ih =>
      obtain ⟨events, before⟩ := ih
      exact ⟨events, before.spawn⟩

end Boundary

end PayloadExchange
