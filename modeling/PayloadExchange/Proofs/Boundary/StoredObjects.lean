import PayloadExchange.Proofs.Boundary.PayloadRequests
import PayloadExchange.Proofs.Registry.Identity
import PayloadExchange.Proofs.Registry.Wraparound

/-! # What threads can store

Requests put objects together and edit payloads by the same rules as operations do, so what any
threads have stored is well formed too. It keeps its kind and its names until it is removed, or
until the numbers of handles have run out and its own is issued again.
-/

namespace PayloadExchange.Boundary

open Registry (Event Course Operation insertions history)

/-- The objects that a request can leave behind handles, told by what was stored before. -/
inductive Stems (registry : Registry) : Object → Prop where
  | kept {handle : Handle} {object : Object} :
      registry.entries[handle]? = some object → Stems registry object
  | payload : Stems registry (.data .empty)
  | command {interface operation : String} {named : Command} :
      Command.make interface operation = .ok named → Stems registry (.command named)
  /-- The document was read from a text. -/
  | read {handle : Handle} {object : Object} {text : String} {payload : Payload} :
      registry.entries[handle]? = some object → object.payload.setJsonText text = .ok payload →
      Stems registry (object.withPayload payload)
  /-- The document is the same, whatever became of the arguments. -/
  | edited {handle : Handle} {object : Object} {payload : Payload} :
      registry.entries[handle]? = some object → payload.json = object.payload.json →
      Stems registry (object.withPayload payload)
  | copied {target source : Handle} {object other : Object} :
      registry.entries[target]? = some object → registry.entries[source]? = some other →
      Stems registry (object.withPayload other.payload)

namespace Request

variable {registry : Registry}

theorem exists_name {request : Request} (about : request.half?.isSome) :
    ∃ handle, request.names = [handle] := by
  cases request with
  | dump | delete | deleteAll | leakCheck | newCommand | interfaceOf | operationOf | interfaceIs
  | operationIs | newPayload | assign => cases about
  | _ => exact ⟨_, rfl⟩

theorem stems_of_storing {made : Except Fault Object}
    (stems : ∀ found, made = .ok found → Stems registry found) {handle : Handle} {object : Object}
    (stored : (storing registry made).2.entries[handle]? = some object) :
    Stems registry object := by
  unfold storing at stored
  cases done : made >>= registry.insert with
  | error fault =>
      rw [done] at stored
      exact .kept stored
  | ok grown =>
      rw [done] at stored
      obtain ⟨found, built, inserted⟩ := ok_of_bind done
      rw [(Registry.getElem?_entries_insert inserted handle).2] at stored
      split at stored
      · obtain rfl := Option.some.inj stored
        exact stems found built
      · exact .kept stored

theorem stems_of_withPayload {handle key : Handle} {before object : Object} {payload : Payload}
    (live : registry.entries[handle]? = some before)
    (stems : Stems registry (before.withPayload payload))
    (stored : (registry.withPayload handle payload).entries[key]? = some object) :
    Stems registry object := by
  rw [Registry.getElem?_entries_withPayload] at stored
  split at stored
  · next same =>
      subst same
      rw [live, Option.map_some] at stored
      obtain rfl := Option.some.inj stored
      exact stems
  · exact .kept stored

/-- Whatever the request, an object behind a handle stems from what was stored before. -/
theorem run_stems {request : Request} {handle : Handle} {object : Object}
    (stored : (request.run registry).2.entries[handle]? = some object) :
    Stems registry object := by
  by_cases about : request.half?.isSome
  · obtain ⟨own, named⟩ := exists_name about
    by_cases known : own ∈ registry.liveHandles
    · obtain ⟨before, found⟩ := Registry.mem_liveHandles.1 known
      have live := Registry.lookup_eq_ok_iff.1 found
      rw [run_of_live live about named] at stored
      rcases act_json about before.payload with kept | ⟨text, read⟩
      · exact stems_of_withPayload live (.edited live kept) stored
      · exact stems_of_withPayload live (.read live read) stored
    · obtain ⟨fault, ran⟩ := run_of_single_dead known named
      rw [ran] at stored
      exact .kept stored
  · cases request with
    | dump | leakCheck | interfaceOf | operationOf | interfaceIs | operationIs =>
        rw [run_asks rfl] at stored
        exact .kept stored
    | delete own =>
        rw [run] at stored
        cases deleted : registry.delete own with
        | error fault =>
            rw [deleted] at stored
            exact .kept stored
        | ok without =>
            obtain ⟨gone, taken⟩ := Registry.delete_eq_ok deleted
            rw [deleted, Registry.getElem?_entries_take taken] at stored
            split at stored
            · cases stored
            · exact .kept stored
    | deleteAll => simp [run, Registry.clear] at stored
    | newPayload =>
        refine stems_of_storing (fun found made => ?_) stored
        obtain rfl := Except.ok.inj made
        exact .payload
    | newCommand interface operation =>
        refine stems_of_storing (fun found built => ?_) stored
        obtain ⟨ofInterface, -, built⟩ := ok_of_bind built
        obtain ⟨ofOperation, -, built⟩ := ok_of_bind built
        obtain ⟨named, made, built⟩ := ok_of_bind built
        obtain rfl := Except.ok.inj built
        exact .command made
    | assign target source =>
        by_cases given : source ∈ registry.liveHandles
        · by_cases known : target ∈ registry.liveHandles
          · obtain ⟨before, found⟩ := Registry.mem_liveHandles.1 known
            obtain ⟨other, copied⟩ := Registry.mem_liveHandles.1 given
            rw [Registry.lookup_eq_ok_iff] at found copied
            rw [run, Registry.assign_of_live found copied] at stored
            exact stems_of_withPayload found (.copied found copied) stored
          · rw [run, Registry.assign_to_dead known given] at stored
            exact .kept stored
        · rw [run, Registry.assign_from_dead given] at stored
          exact .kept stored
    | _ => exact absurd rfl about

theorem run_wellFormed (formed : registry.WellFormed) (request : Request) :
    (request.run registry).2.WellFormed := by
  intro handle object stored
  cases run_stems stored with
  | kept live => exact formed _ _ live
  | payload => exact Object.wellFormed_data rfl
  | command made => exact Command.wellFormed_of_make rfl made
  | read live set => exact (formed _ _ live).withPayload (Payload.isObject_of_setJsonText set)
  | edited live same =>
      have before := formed _ _ live
      exact before.withPayload (same ▸ before.document)
  | copied live other => exact (formed _ _ live).withPayload (formed _ _ other).document

end Request

/-- What every request leaves true of the registry is true wherever threads can lead. -/
theorem Reachable.registry_of_run {good : Registry → Prop} {environment : Environment}
    {host : Host} (reachable : Reachable environment host)
    (start : good (.empty (.ofEnvironment environment)))
    (each : ∀ registry request, good registry → good (Request.run registry request).2) :
    good host.registry := by
  induction reachable with
  | start => exact start
  | @call host thread call _ _ ih =>
      cases call with
      | request request =>
          rw [Host.call, Host.request_registry]
          exact each _ request ih
      | kind handle | explain | setError text | releaseNull | release bytes | version | schema =>
          exact ih
  | spawn _ ih => exact ih

theorem Reachable.wellFormed {environment : Environment} {host : Host}
    (reachable : Reachable environment host) : host.registry.WellFormed :=
  reachable.registry_of_run (.empty _) fun _ request formed => request.run_wellFormed formed

/-- Whatever operations or calls have been made, what is stored is well formed. An object keeps
    its kind and its names from any moment at which it is stored to any later one before its
    removal, and is handed over with them, unless its handle is issued a second time meanwhile,
    for which the numbers would have to run out. -/
theorem stored_objects_keep_form_and_names :
    (∀ (config : Config) (operations : List Operation),
      ((Registry.empty config).performAll operations).2.WellFormed) ∧
    (∀ (environment : Environment) (host : Host), Reachable environment host →
      host.registry.WellFormed) ∧
    (∀ (config : Config) (earlier later : List Operation) (handle : Handle) (object : Object),
      let past := (Registry.empty config).performAll earlier
      let present := past.2.performAll later
      let events := history earlier past.1
      let further := history later present.1
      past.2.lookup handle = .ok object →
      (∀ event ∈ further, ¬ event.Withdraws handle) →
      insertions (events ++ further) ≤ 18446744073709551615 ∨ .issued handle ∉ further →
      present.2.Retains handle object) ∧
    ∀ (environment : Environment) (events further : List Event) (past present : Host)
      (handle : Handle) (object : Object),
      Chronicled (.start environment) events past → Chronicled past further present →
      past.registry.lookup handle = .ok object →
      (∀ event ∈ further, ¬ event.Withdraws handle) →
      insertions (events ++ further) ≤ 18446744073709551615 ∨ .issued handle ∉ further →
      present.registry.Retains handle object := by
  refine ⟨?_, fun _ _ reachable => reachable.wellFormed, ?_, ?_⟩
  · intro config operations
    exact (Registry.WellFormed.empty config).performAll operations
  · intro config earlier later handle object past present events further stored spared once
    have toPast : Course (.empty config) events past.2 := Course.start.performAll earlier
    have toPresent : Course past.2 further present.2 := Course.start.performAll later
    exact toPast.retains toPresent stored spared once
  · intro environment events further past present handle object toPast toPresent stored spared once
    exact toPast.course.retains toPresent.course stored spared once

/-- A batch that breaks off, a copy from the other kind and a refused document leave a command
    what it is, and so does a thread that fails to pop. -/
theorem command_kept_through_edits :
    let earlier : List Operation := [.insert {}, .insert { names := some ("a", "b") }]
    let later : List Operation :=
      [.batch 2 [.push [0], .abort "stop"], .assign 2 1, .step 2 (.setJsonText "[]")]
    let past := (Registry.empty {}).performAll earlier
    let present := past.2.performAll later
    let environment : Environment := fun _ => none
    let before := ((Host.start environment).call 0 (.request .newPayload)).2
    let after := (before.call 0 (.request (.popString 1))).2
    past.2.lookup 2 = .ok (.command ⟨"a", "b", {}⟩) ∧
      present.2.Retains 2 (.command ⟨"a", "b", {}⟩) ∧
      before.registry.lookup 1 = .ok (.data .empty) ∧
      Reachable environment after ∧ after.registry.WellFormed ∧
      after.registry.Retains 1 (.data .empty) := by
  intro earlier later past present environment before after
  obtain ⟨-, formed, ofRuns, ofHosts⟩ := stored_objects_keep_form_and_names
  have stored : past.2.lookup 2 = .ok (.command ⟨"a", "b", {}⟩) := rfl
  have quiet : history later present.1 = [] := by decide +kernel
  have kept := ofRuns {} earlier later 2 _ stored (by rw [quiet]; nofun)
    (.inr (by rw [quiet]; nofun))
  have given : before.registry.lookup 1 = .ok (.data .empty) := rfl
  have reachable : Reachable environment before := .call (.request .newPayload) .start (by decide)
  have toPast : Chronicled (.start environment) [.issued 1] before :=
    Chronicled.start.call 0 (.request .newPayload)
  have toPresent : Chronicled before [] after := Chronicled.start.call 0 (.request (.popString 1))
  have further : Reachable environment after := reachable.call _ (by decide)
  exact ⟨stored, kept, given, further, formed environment after further,
    ofHosts environment _ [] before after 1 _ toPast toPresent given nofun (.inl (by decide))⟩

/-- To keep an object is not enough to find it again. Of a payload behind the first handle that
    nothing ever removes, the kind has changed once all other numbers have been issued and one
    more object, a command, is stored. -/
theorem kept_payload_overwritten :
    let earlier : List Operation := [.insert {}]
    let later : List Operation :=
      Operation.turnovers 1 18446744073709551614 ++ [.insert { names := some ("a", "b") }]
    let past := (Registry.empty {}).performAll earlier
    let present := past.2.performAll later
    past.2.lookup 1 = .ok (.data .empty) ∧
      (∀ event ∈ history later present.1, ¬ event.Withdraws 1) ∧
      present.2.lookup 1 = .ok (.command ⟨"a", "b", {}⟩) ∧
      ¬ present.2.Retains 1 (.data .empty) ∧
      ¬ ∀ (config : Config) (earlier later : List Operation) (handle : Handle) (object : Object),
        let past := (Registry.empty config).performAll earlier
        let present := past.2.performAll later
        past.2.lookup handle = .ok object →
        (∀ event ∈ history later present.1, ¬ event.Withdraws handle) →
        present.2.Retains handle object := by
  -- The runs are spelled out and not named: to compare a name with its run is to evaluate it.
  have payload : Parts.build {} = .ok (.data .empty) := rfl
  have command : Parts.build { names := some ("a", "b") } = .ok (.command ⟨"a", "b", {}⟩) := rfl
  have unnamed : ∀ operation ∈ Operation.turnovers 1 18446744073709551614
      ++ [.insert { names := some ("a", "b") }],
      (1 : Handle) ∉ operation.names ∧ operation ≠ .clear := by
    intro operation member
    rcases List.mem_append.1 member with turnover | last
    · exact Registry.turnovers_spare (by decide) (by decide) operation turnover
    · obtain rfl := List.mem_singleton.1 last
      exact ⟨nofun, nofun⟩
  have spared := Registry.history_spares unnamed
  obtain ⟨stored, overwritten⟩ := Registry.first_object_overwritten payload command
  have other : Kind.command ≠ (Object.data .empty).kind := nofun
  have changed := Registry.not_retains_of_kind overwritten other
  exact ⟨stored, spared _, overwritten, changed,
    fun always => changed (always {} _ _ 1 _ stored (spared _))⟩

end PayloadExchange.Boundary
