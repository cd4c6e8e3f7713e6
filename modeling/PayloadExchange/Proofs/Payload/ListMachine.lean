import PayloadExchange.Proofs.Payload.Interleaving
import PayloadExchange.Proofs.Payload.Places

/-! # Arguments as a list machine

What the steps about arguments may do, told without machine words: a list is taken apart where an
index points, and put together again. Main statement: as long as the arguments can be counted in a
machine word, the steps of a payload do this and nothing else.
-/

namespace PayloadExchange.Payload

/-- The index of a step and the number of places that it selects from: to insert, the gaps between
    so many arguments, and otherwise the arguments. -/
def Step.aim? (count : Nat) : Step → Option (Int64 × Nat)
  | get index | set index _ | remove index => some (index, count)
  | insert index _ => some (index, count + 1)
  | setJsonText _ | setJson _ | push _ | pop | clear | Step.count | isEmpty | jsonText | state
  | dump | abort _ => none

/-- A turn of the list machine: a list, the step that is taken, its answer, and the list
    afterwards. -/
inductive Turn : List Bytes → Step → Except Fault Answer → List Bytes → Prop where
  | push {args : List Bytes} {arg : Bytes} : Turn args (.push arg) (.ok .done) (args ++ [arg])
  | pop {front : List Bytes} {arg : Bytes} : Turn (front ++ [arg]) .pop (.ok (.arg arg)) front
  | nothing : Turn [] .pop (.error .nothingToPop) []
  | get {front back : List Bytes} {arg : Bytes} {index : Int64} :
      StandsFor (front ++ arg :: back).length index.toInt front.length →
      Turn (front ++ arg :: back) (.get index) (.ok (.arg arg)) (front ++ arg :: back)
  | set {front back : List Bytes} {old arg : Bytes} {index : Int64} :
      StandsFor (front ++ old :: back).length index.toInt front.length →
      Turn (front ++ old :: back) (.set index arg) (.ok .done) (front ++ arg :: back)
  | insert {front back : List Bytes} {arg : Bytes} {index : Int64} :
      StandsFor ((front ++ back).length + 1) index.toInt front.length →
      Turn (front ++ back) (.insert index arg) (.ok .done) (front ++ arg :: back)
  | remove {front back : List Bytes} {arg : Bytes} {index : Int64} :
      StandsFor (front ++ arg :: back).length index.toInt front.length →
      Turn (front ++ arg :: back) (.remove index) (.ok (.arg arg)) (front ++ back)
  | outOfRange {args : List Bytes} {step : Step} {index : Int64} {places : Nat} :
      step.aim? args.length = some (index, places) → ¬ InRange places index.toInt →
      Turn args step (.error (.indexOutOfRange index args.length)) args
  | clear {args : List Bytes} : Turn args .clear (.ok .done) []
  | count {args : List Bytes} : Turn args .count (.ok (.count args.length)) args
  | isEmpty {args : List Bytes} : Turn args .isEmpty (.ok (.truth (args.length == 0))) args

/-- Turns of the list machine one after the other. -/
inductive Turns : List Bytes → List Step → List (Except Fault Answer) → List Bytes → Prop where
  | stop {args : List Bytes} : Turns args [] [] args
  | turn {args changed final : List Bytes} {step : Step} {steps : List Step}
      {answer : Except Fault Answer} {answers : List (Except Fault Answer)} :
      Turn args step answer changed → Turns changed steps answers final →
      Turns args (step :: steps) (answer :: answers) final

theorem Turn.unchanged {args after : List Bytes} {step : Step} {fault : Fault}
    (turn : Turn args step (.error fault) after) : after = args := by
  cases turn with
  | nothing | outOfRange => rfl

theorem Turn.length_le {args after : List Bytes} {step : Step} {answer : Except Fault Answer}
    (turn : Turn args step answer after) : after.length ≤ args.length + 1 := by
  cases turn with
  | nothing | outOfRange | clear | count | isEmpty | get => simp
  | push | pop | set | insert | remove =>
      simp only [List.length_append, List.length_cons, List.length_nil]
      omega

theorem exists_turn (args : List Bytes) {step : Step} (about : step.half? = some .arguments) :
    ∃ answer after, Turn args step answer after := by
  cases step with
  | setJsonText | setJson | jsonText => cases about
  | state | dump | abort => cases about
  | push arg => exact ⟨_, _, .push⟩
  | clear => exact ⟨_, _, .clear⟩
  | count => exact ⟨_, _, .count⟩
  | isEmpty => exact ⟨_, _, .isEmpty⟩
  | pop =>
      rcases List.eq_nil_or_concat args with rfl | ⟨front, arg, rfl⟩
      · exact ⟨_, _, .nothing⟩
      · rw [List.concat_eq_append]
        exact ⟨_, _, .pop⟩
  | get index =>
      rcases parts_at_item args index.toInt with ⟨front, arg, back, rfl, stands⟩ | outside
      · exact ⟨_, _, .get stands⟩
      · exact ⟨_, _, .outOfRange rfl outside⟩
  | set index arg =>
      rcases parts_at_item args index.toInt with ⟨front, old, back, rfl, stands⟩ | outside
      · exact ⟨_, _, .set stands⟩
      · exact ⟨_, _, .outOfRange rfl outside⟩
  | remove index =>
      rcases parts_at_item args index.toInt with ⟨front, arg, back, rfl, stands⟩ | outside
      · exact ⟨_, _, .remove stands⟩
      · exact ⟨_, _, .outOfRange rfl outside⟩
  | insert index arg =>
      rcases parts_at_gap args index.toInt with ⟨front, back, rfl, stands⟩ | outside
      · exact ⟨_, _, .insert stands⟩
      · exact ⟨_, _, .outOfRange rfl outside⟩

theorem exists_turns (args : List Bytes) {steps : List Step}
    (about : ∀ step ∈ steps, step.half? = some .arguments) :
    ∃ answers final, Turns args steps answers final := by
  induction steps generalizing args with
  | nil => exact ⟨_, _, .stop⟩
  | cons step steps ih =>
      obtain ⟨answer, changed, turn⟩ := exists_turn args (about step List.mem_cons_self)
      obtain ⟨answers, final, turns⟩ :=
        ih changed fun later member => about later (List.mem_cons_of_mem step member)
      exact ⟨_, _, .turn turn turns⟩

theorem perform_of_outside {payload : Payload} (small : payload.count < 9223372036854775807)
    {step : Step} {index : Int64} {places : Nat}
    (aim : step.aim? payload.count = some (index, places))
    (outside : ¬ InRange places index.toInt) :
    payload.perform step = (.error (.indexOutOfRange index payload.count), payload) := by
  have items : payload.count < 9223372036854775808 := Nat.lt_succ_of_lt small
  have gaps : payload.count + 1 < 9223372036854775808 := Nat.succ_lt_succ small
  cases step with
  | setJsonText | setJson | push | pop | clear | count | isEmpty | jsonText | state | dump
  | abort => cases aim
  | get index =>
      obtain ⟨rfl, rfl⟩ := Prod.mk.inj (Option.some.inj aim)
      rw [perform, apply, get_of_outside items outside]
      rfl
  | set index arg =>
      obtain ⟨rfl, rfl⟩ := Prod.mk.inj (Option.some.inj aim)
      rw [perform, apply, set_of_outside items outside]
      rfl
  | remove index =>
      obtain ⟨rfl, rfl⟩ := Prod.mk.inj (Option.some.inj aim)
      rw [perform, apply, remove_of_outside items outside]
      rfl
  | insert index arg =>
      obtain ⟨rfl, rfl⟩ := Prod.mk.inj (Option.some.inj aim)
      rw [perform, apply, insert_of_outside gaps outside]
      rfl

theorem perform_pop (payload : Payload) (front : List Bytes) (arg : Bytes) :
    Payload.perform { payload with args := front ++ [arg] } .pop
      = (.ok (.arg arg), { payload with args := front }) := by
  rw [perform, apply, pop_of_parts rfl]
  rfl

/-- A turn of the machine is what the step does to the payload. -/
theorem Turn.perform_eq {payload : Payload} {step : Step} {answer : Except Fault Answer}
    {after : List Bytes} (turn : Turn payload.args step answer after)
    (small : payload.count < 9223372036854775807) :
    payload.perform step = (answer, { payload with args := after }) := by
  have items : payload.count < 9223372036854775808 := Nat.lt_succ_of_lt small
  have gaps : payload.count + 1 < 9223372036854775808 := Nat.succ_lt_succ small
  obtain ⟨json, args⟩ := payload
  cases turn with
  | push | clear | count | nothing => rfl
  | isEmpty => cases args <;> rfl
  | pop => exact perform_pop { json } _ _
  | outOfRange aim outside => exact perform_of_outside small aim outside
  | get stands =>
      rw [perform, apply, get_of_parts rfl items stands]
      rfl
  | set stands =>
      rw [perform, apply, set_of_parts rfl items stands]
      rfl
  | insert stands =>
      rw [perform, apply, insert_of_parts rfl gaps stands]
      rfl
  | remove stands =>
      rw [perform, apply, remove_of_parts rfl items stands]
      rfl

/-- All along some steps, the arguments and the gaps between them can be counted in a machine
    word. -/
def StaysSmall (payload : Payload) (steps : List Step) : Prop :=
  ∀ earlier, earlier <+: steps →
    (takeAll perform payload earlier).2.count < 9223372036854775807

section

variable {payload : Payload} {step : Step} {steps : List Step}

theorem StaysSmall.here (small : payload.StaysSmall steps) :
    payload.count < 9223372036854775807 := small [] List.nil_prefix

theorem StaysSmall.later (small : payload.StaysSmall (step :: steps)) :
    (payload.perform step).2.StaysSmall steps := by
  intro earlier before
  exact small (step :: earlier) (List.cons_prefix_cons.2 ⟨rfl, before⟩)

/-- A step adds one argument at most, so that few steps keep few arguments few. -/
theorem staysSmall_of_few (about : ∀ step ∈ steps, step.half? = some .arguments)
    (few : payload.count + steps.length < 9223372036854775807) : payload.StaysSmall steps := by
  induction steps generalizing payload with
  | nil =>
      intro earlier before
      obtain rfl := List.prefix_nil.1 before
      exact few
  | cons step steps ih =>
      intro earlier before
      have small : payload.count < 9223372036854775807 := by omega
      rcases List.prefix_cons_iff.1 before with rfl | ⟨others, rfl, within⟩
      · exact small
      · obtain ⟨answer, changed, turn⟩ := exists_turn payload.args (about step List.mem_cons_self)
        have grown : changed.length ≤ payload.count + 1 := turn.length_le
        have taken := turn.perform_eq small
        simp only [takeAll, taken]
        refine ih (fun later member => about later (List.mem_cons_of_mem step member)) ?_ _ within
        rw [List.length_cons] at few
        show changed.length + steps.length < _
        omega

/-- The turns of the machine are what the steps do to the payload. -/
theorem turns_iff (about : ∀ step ∈ steps, step.half? = some .arguments)
    (small : payload.StaysSmall steps) (answers : List (Except Fault Answer))
    (final : List Bytes) :
    Turns payload.args steps answers final ↔
      takeAll perform payload steps = (answers, { payload with args := final }) := by
  induction steps generalizing payload answers with
  | nil =>
      constructor
      · rintro ⟨⟩
        rfl
      · intro same
        obtain ⟨rfl, kept⟩ := Prod.mk.inj same
        rw [show final = payload.args from (congrArg Payload.args kept).symm]
        exact .stop
  | cons step steps ih =>
      obtain ⟨answer, changed, turn⟩ := exists_turn payload.args (about step List.mem_cons_self)
      have taken := turn.perform_eq small.here
      have rest := small.later
      rw [taken] at rest
      have further := ih (fun later member => about later (List.mem_cons_of_mem step member)) rest
      constructor
      · rintro (_ | ⟨first, others⟩)
        -- The machine has no other turn than this one.
        obtain ⟨rfl, same⟩ := Prod.mk.inj ((first.perform_eq small.here).symm.trans taken)
        obtain rfl : _ = changed := congrArg Payload.args same
        simp only [takeAll, taken, (further _).1 others]
      · intro same
        simp only [takeAll, taken] at same
        obtain ⟨rfl, last⟩ := Prod.mk.inj same
        exact .turn turn ((further _).2 (Prod.ext rfl last))

end

theorem takeAll_push (payload : Payload) (pushed : List Bytes) (steps : List Step) :
    takeAll perform payload (pushed.map .push ++ steps)
      = (List.replicate pushed.length (.ok .done)
          ++ (takeAll perform { payload with args := payload.args ++ pushed } steps).1,
        (takeAll perform { payload with args := payload.args ++ pushed } steps).2) := by
  induction pushed generalizing payload with
  | nil => simp
  | cons arg pushed ih =>
      have first : payload.perform (.push arg) = (.ok .done, payload.push arg) := rfl
      simp only [List.map_cons, List.length_cons, List.replicate_succ, List.cons_append, takeAll,
        first, ih, push, List.append_assoc, List.nil_append]

theorem takeAll_pop (payload : Payload) (popped : List Bytes) :
    takeAll perform { payload with args := payload.args ++ popped.reverse }
        (List.replicate popped.length .pop)
      = (popped.map fun arg => .ok (.arg arg), payload) := by
  induction popped with
  | nil => simp [takeAll]
  | cons arg popped ih =>
      simp only [List.reverse_cons, ← List.append_assoc, List.length_cons, List.replicate_succ,
        List.map_cons, takeAll, perform_pop, ih]

/-- The arguments of a payload are a list machine under signed indices. The machine can take any
    steps about arguments, and what it answers and leaves is what the payload answers and leaves,
    failures included; the document stays. No index of a machine word is misread on the way: to
    count from the end never overflows, and the place that is selected is the one that is meant.
    Arguments that were pushed are popped again in reverse order. -/
theorem arguments_are_list_machine :
    (∀ (payload : Payload) (steps : List Step), (∀ step ∈ steps, step.half? = some .arguments) →
      payload.StaysSmall steps →
      (∃ answers final, Turns payload.args steps answers final) ∧
      ∀ answers final, Turns payload.args steps answers final ↔
        takeAll perform payload steps = (answers, { payload with args := final })) ∧
    (∀ args step fault after, Turn args step (.error fault) after → after = args) ∧
    (∀ places < 9223372036854775808, ∀ index : Int64,
      (Int64.ofNat places).toInt = places ∧
      (index < 0 → ∃ sum, checkedSum (Int64.ofNat places) index = some sum ∧
        sum.toInt = places + index.toInt) ∧
      ∀ place : Fin places, place? places index = some place ↔
        StandsFor places index.toInt place) ∧
    (∀ index count, (Fault.indexOutOfRange index count).report = ⟨.outOfRange, "index "
      ++ toString index.toInt ++ " is out of range for " ++ toString count ++ " argument(s)"⟩) ∧
    Fault.nothingToPop.report = ⟨.outOfRange, "pop from empty argument list"⟩ ∧
    ∀ (payload : Payload) (pushed : List Bytes),
      takeAll perform payload (pushed.map .push ++ List.replicate pushed.length .pop)
        = (List.replicate pushed.length (.ok .done)
            ++ pushed.reverse.map fun arg => .ok (.arg arg), payload) := by
  refine ⟨?_, fun _ _ _ _ => Turn.unchanged, ?_, fun _ _ => rfl, rfl, ?_⟩
  · exact fun payload steps about small => ⟨exists_turns payload.args about, turns_iff about small⟩
  · intro places small index
    exact ⟨Int64.toInt_ofNat_of_lt small, checkedSum_of_negative small, fun place =>
      place?_eq_some_iff_standsFor small⟩
  · intro payload pushed
    have popped := takeAll_pop payload pushed.reverse
    rw [List.reverse_reverse, List.length_reverse] at popped
    rw [takeAll_push, popped]

/-- On two arguments: the last index of each kind and the first beyond it; then the ends of the
    range of a machine word, and more pops than there are arguments. -/
theorem machine_at_the_limits :
    Turns [[1], [2]] [.get (-2), .get (-3), .get 2, .insert 2 [3], .insert (-4) [0],
        .insert (-6) []]
      [.ok (.arg [1]), .error (.indexOutOfRange (-3) 2), .error (.indexOutOfRange 2 2), .ok .done,
        .ok .done, .error (.indexOutOfRange (-6) 4)] [[0], [1], [2], [3]] ∧
    Turns [[1], [2]] [.set Int64.minValue [], .remove Int64.maxValue, .remove (-1), .pop, .pop,
        .clear, .isEmpty]
      [.error (.indexOutOfRange Int64.minValue 2), .error (.indexOutOfRange Int64.maxValue 2),
        .ok (.arg [2]), .ok (.arg [1]), .error .nothingToPop, .ok .done, .ok (.truth true)] [] ∧
    (∃ sum, checkedSum 4 Int64.minValue = some sum ∧ sum.toInt = 4 + Int64.minValue.toInt) ∧
    takeAll perform { args := [[1]] } [.push [3], .push [], .pop, .pop]
      = ([.ok .done, .ok .done, .ok (.arg []), .ok (.arg [3])], { args := [[1]] }) := by
  obtain ⟨machine, -, words, -, -, popped⟩ := arguments_are_list_machine
  refine ⟨((machine { args := [[1], [2]] } _ ?grows ?few).2 _ _).2 rfl,
    ((machine { args := [[1], [2]] } _ ?shrinks ?fewer).2 _ _).2 rfl,
    (words 4 (by decide) Int64.minValue).2.1 (by decide), popped { args := [[1]] } [[3], []]⟩
  case grows | shrinks => decide
  case few | fewer => exact staysSmall_of_few (by decide) (by decide)

end PayloadExchange.Payload
