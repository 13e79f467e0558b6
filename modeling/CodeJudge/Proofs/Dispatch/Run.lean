import CodeJudge.Dispatch.Run
import CodeJudge.Proofs.Runs
import Mathlib.Data.Finset.Card

/-!
# Runs of dispatches

What can happen next is said once, by the rules of `Follows`. The numbers that a dispatch has taken are
read off the events: the counter goes up by one whenever a number is taken, so the numbers are the places
of the events that take them. `answers` reads off a run which instance has answered what.

**The law** (`ended_or_goes_on`): no dispatch is held up by the others. One that has not come to its end has
made fewer steps than two for each of its attempts and one for the look-up, and can make another.
-/

namespace CodeJudge.Dispatch

/-! ## Numbers -/

/-- The dispatch that an event gives a number to. -/
def Event.taker? : Event → Option Nat
  | .take index => some index
  | _ => none

/-- The dispatches that numbers have been given to, in the order of the numbers. -/
def takers (events : List Event) : List Nat := events.filterMap Event.taker?

/-- An event that gives no number adds no dispatch. -/
theorem takers_append_of_quiet (events : List Event) {event : Event} (gives : event.taker? = none) :
    takers (events ++ [event]) = takers events := by
  simp only [takers, List.filterMap_append, List.filterMap_cons, gives, List.filterMap_nil,
    List.append_nil]

/-- A number that is taken is given to the dispatch that takes it. -/
theorem takers_append_take (events : List Event) (index : Nat) :
    takers (events ++ [.take index]) = takers events ++ [index] := by
  simp only [takers, List.filterMap_append, List.filterMap_cons, Event.taker?, List.filterMap_nil]

/-- The numbers that a dispatch has been given, when numbers were given to these. -/
def numbers (taken : List Nat) (index : Nat) : Finset Nat :=
  (Finset.range taken.length).filter fun number => taken[number]? = some index

theorem mem_numbers {taken : List Nat} {index number : Nat} :
    number ∈ numbers taken index ↔ taken[number]? = some index := by
  rw [numbers, Finset.mem_filter, Finset.mem_range, and_iff_right_iff_imp]
  exact fun there => (List.getElem?_eq_some_iff.mp there).1

/-- A dispatch has been given no number past the last. -/
theorem lt_of_mem_numbers {taken : List Nat} {index number : Nat} (mem : number ∈ numbers taken index) :
    number < taken.length :=
  (List.getElem?_eq_some_iff.mp (mem_numbers.mp mem)).1

/-- The dispatch that a number was given to. -/
def takerOf (taken : List Nat) (number : Nat) : Nat := taken[number]?.getD 0

theorem mem_numbers_takerOf {taken : List Nat} {number : Nat} (given : number < taken.length) :
    number ∈ numbers taken (takerOf taken number) := by
  rw [mem_numbers, takerOf, List.getElem?_eq_getElem given, Option.getD_some]

/-- A dispatch that numbers were never given to has none. -/
theorem numbers_of_not_mem {taken : List Nat} {index : Nat} (none_ : index ∉ taken) :
    numbers taken index = ∅ := by
  refine Finset.filter_eq_empty_iff.mpr fun number _ there => none_ ?_
  exact List.mem_of_getElem? there

/-- The next number adds to the numbers of the dispatch that it is given to. -/
theorem numbers_append_self (taken : List Nat) (index : Nat) :
    numbers (taken ++ [index]) index = insert taken.length (numbers taken index) := by
  ext number
  rw [mem_numbers, Finset.mem_insert, mem_numbers, List.getElem?_append]
  split
  · rename_i earlier
    exact ⟨.inr, fun there => there.resolve_left earlier.ne⟩
  · rename_i later
    rw [List.getElem?_singleton]
    constructor
    · intro there
      split at there
      · exact .inl (by omega)
      · cases there
    · rintro (rfl | there)
      · rw [Nat.sub_self, if_pos rfl]
      · exact absurd (List.getElem?_eq_some_iff.mp there).1 later

/-- The next number adds nothing to those of other dispatches. -/
theorem numbers_append_other {taken : List Nat} {index other : Nat} (others : index ≠ other) :
    numbers (taken ++ [index]) other = numbers taken other := by
  ext number
  rw [mem_numbers, mem_numbers, List.getElem?_append]
  split
  · rfl
  · rename_i later
    rw [List.getElem?_eq_none (Nat.le_of_not_lt later), List.getElem?_singleton]
    refine iff_of_false (fun there => ?_) nofun
    split at there
    · exact others (Option.some.inj there)
    · cases there

/-- The next number is one more. -/
theorem card_numbers_append_self (taken : List Nat) (index : Nat) :
    (numbers (taken ++ [index]) index).card = (numbers taken index).card + 1 := by
  rw [numbers_append_self, Finset.card_insert_of_notMem]
  exact fun mem => (lt_of_mem_numbers mem).ne rfl

namespace Run

variable {policy : Policy} {run next last : Run} {event : Event} {events : List Event}

/-! ## What can happen next -/

/-- **What an event does to a run.** -/
inductive Follows (policy : Policy) (run : Run) : Event → Run → Prop
  | came : Follows policy run .come { run with active := run.active ++ [.resolve] }
  | resolved {index : Nat} {answer : Except Fault (List String)}
      (here : run.active[index]? = some .resolve) :
      Follows policy run (.resolved index answer) (run.set index (.ofResolved policy answer))
  | took {index left : Nat} {instances : List String} {fault : Fault}
      (here : run.active[index]? = some (.take instances fault (left + 1))) :
      Follows policy run (.take index)
        { run.set index (.call instances (slot run.counter instances.length) left) with
          counter := run.counter + 1
          places := slot run.counter instances.length :: run.places }
  | answered {index place left : Nat} {instances : List String} {answer : Except Fault JobResult}
      (here : run.active[index]? = some (.call instances place left)) :
      Follows policy run (.answered index answer)
        (run.set index (.ofAnswer policy instances left answer))

/-- Everything that happens follows one of the rules. -/
theorem follows_of_next? (happened : run.next? policy event = some next) :
    Follows policy run event next := by
  cases event with
  | come =>
    cases happened
    exact .came
  | resolved index answer =>
    simp only [next?] at happened
    split at happened
    · rename_i here
      cases happened
      exact .resolved here
    · cases happened
  | take index =>
    simp only [next?] at happened
    split at happened
    · rename_i here
      cases happened
      exact .took here
    · cases happened
  | answered index answer =>
    simp only [next?] at happened
    split at happened
    · rename_i here
      cases happened
      exact .answered here
    · cases happened

/-! ## Answers -/

/-- The instance that an event is the answer of, and what it answers. -/
def answer? (run : Run) : Event → Option (Nat × Except Fault JobResult)
  | .answered index answer =>
    match run.active[index]? with
    | some (.call _ place _) => some (place, answer)
    | _ => none
  | _ => none

/-- What instances have answered, and at which place each of them stands. -/
def answers (policy : Policy) (run : Run) : List Event → List (Nat × Except Fault JobResult)
  | [] => []
  | event :: rest =>
    match run.next? policy event with
    | some next => (run.answer? event).toList ++ next.answers policy rest
    | none => []

/-- The last event of a run adds the answer that it is. -/
theorem answers_append_event (ran : run.after? policy events = some last)
    (happened : last.next? policy event = some next) :
    run.answers policy (events ++ [event]) =
      run.answers policy events ++ (last.answer? event).toList := by
  induction events generalizing run with
  | nil =>
    cases ran
    simp only [List.nil_append, answers, happened, List.append_nil]
  | cons first rest ih =>
    obtain ⟨between, earlier, later⟩ := Option.bind_eq_some_iff.mp ran
    simp only [List.cons_append, answers, earlier, ih later, List.append_assoc]

end Run

/-! ## Steps -/

/-- The dispatch that an event is a step of. -/
def Event.index? : Event → Option Nat
  | .come => none
  | .resolved index _ | .take index | .answered index _ => some index

/-- The number of steps that a dispatch has made. -/
def steps (events : List Event) (index : Nat) : Nat := (events.filterMap Event.index?).count index

/-- A dispatch that comes is no step of another. -/
theorem steps_append_come (events : List Event) (index : Nat) :
    steps (events ++ [.come]) index = steps events index := by
  simp only [steps, List.filterMap_append, List.filterMap_cons, Event.index?, List.filterMap_nil,
    List.append_nil]

/-- A step counts for the dispatch that makes it. -/
theorem steps_append_step (events : List Event) {event : Event} {index : Nat}
    (by_ : event.index? = some index) (other : Nat) :
    steps (events ++ [event]) other = steps events other + if index = other then 1 else 0 := by
  simp only [steps, List.filterMap_append, List.filterMap_cons, by_, List.filterMap_nil,
    List.count_append, List.count_singleton, beq_iff_eq]

/-- The most steps that a dispatch of so many attempts makes. -/
def Policy.steps (policy : Policy) : Nat := 2 * policy.tries + 1

/-- The most steps that a dispatch makes from a stage on. -/
def Stage.rest (policy : Policy) : Stage → Nat
  | .resolve => policy.steps
  | .take _ _ left => 2 * left
  | .call _ _ left => 2 * left + 1
  | .ended _ => 0

/-- A dispatch takes a number only for a call that is left. -/
def Stage.Ready : Stage → Prop
  | .take _ _ left => 0 < left
  | _ => True

section

variable (policy : Policy) (instances : List String)

theorem Stage.rest_before (last : Fault) (left : Nat) :
    (before policy instances last left).rest policy = 2 * left := by
  cases left <;> rfl

theorem Stage.ready_before (last : Fault) (left : Nat) :
    (before policy instances last left).Ready := by
  cases left with
  | zero => trivial
  | succ left => exact left.succ_pos

/-- Looking up the instances is a step. -/
theorem Stage.ofResolved_lt (answer : Except Fault (List String)) :
    (ofResolved policy answer).rest policy < policy.steps ∧ (ofResolved policy answer).Ready := by
  match answer with
  | .error _ | .ok [] => exact ⟨Nat.succ_pos _, trivial⟩
  | .ok (first :: rest) =>
    refine ⟨?_, ready_before policy _ _ _⟩
    exact (rest_before policy _ _ _).trans_lt (Nat.lt_succ_self _)

/-- Getting an answer is a step. -/
theorem Stage.ofAnswer_lt (left : Nat) (answer : Except Fault JobResult) :
    (ofAnswer policy instances left answer).rest policy < 2 * left + 1 ∧
      (ofAnswer policy instances left answer).Ready := by
  match answer with
  | .ok _ => exact ⟨Nat.succ_pos _, trivial⟩
  | .error _ =>
    refine ⟨?_, ready_before policy _ _ _⟩
    exact (rest_before policy _ _ _).trans_lt (Nat.lt_succ_self _)

end

namespace Run

variable {policy : Policy} {run next : Run} {event : Event} {events : List Event}
variable {index : Nat} {stage : Stage}

/-- **A step brings its dispatch nearer to its end**, and leaves the others where they are. -/
theorem Follows.nearer (follows : Follows policy run event next) :
    (event = .come ∧ next.active = run.active ++ [.resolve]) ∨
    ∃ index stage moved, event.index? = some index ∧ run.active[index]? = some stage ∧
      next.active = run.active.set index moved ∧
      moved.rest policy < stage.rest policy ∧ moved.Ready := by
  cases follows with
  | came => exact .inl ⟨rfl, rfl⟩
  | resolved here => exact .inr ⟨_, _, _, rfl, here, rfl, Stage.ofResolved_lt policy _⟩
  | took here => exact .inr ⟨_, _, _, rfl, here, rfl, Nat.lt_succ_self _, trivial⟩
  | answered here => exact .inr ⟨_, _, _, rfl, here, rfl, Stage.ofAnswer_lt policy _ _ _⟩

/-- **What a run has to do with the steps that were made.** -/
structure Paced (policy : Policy) (events : List Event) (run : Run) : Prop where
  fresh : ∀ index, run.active.length ≤ index → steps events index = 0
  spent : ∀ (index : Nat) (stage : Stage), run.active[index]? = some stage →
    steps events index + stage.rest policy ≤ policy.steps ∧ stage.Ready

/-- No step has been made at the start. -/
theorem Paced.start : Paced policy [] {} where
  fresh _ _ := rfl
  spent := nofun

/-- Wherever a run has come to, its dispatches have made no more steps than they may. -/
theorem paced_of_after? (ran : after? policy {} events = some run) : Paced policy events run := by
  refine foldlM_induction (motive := Paced policy) .start ?_ ran
  intro events run event next _ paced happened
  rcases (follows_of_next? happened).nearer with
    ⟨rfl, active⟩ | ⟨index, stage, moved, by_, here, active, less, ready⟩
  · refine ⟨fun index late => ?_, fun index stage there => ?_⟩
    · rw [active, List.length_append] at late
      rw [steps_append_come]
      exact paced.fresh index ((Nat.le_succ _).trans late)
    · rw [steps_append_come]
      rw [active] at there
      rcases getElem?_come there with there | ⟨rfl, rfl⟩
      · exact paced.spent index stage there
      · rw [paced.fresh _ le_rfl, Nat.zero_add]
        exact ⟨le_rfl, trivial⟩
  · refine ⟨fun other late => ?_, fun other found there => ?_⟩
    · rw [active, List.length_set] at late
      have others : index ≠ other := ((List.getElem?_eq_some_iff.mp here).1.trans_le late).ne
      rw [steps_append_step events by_, if_neg others]
      exact paced.fresh other late
    · rw [steps_append_step events by_]
      rw [active] at there
      rcases getElem?_step there with ⟨rfl, rfl⟩ | ⟨others, there⟩
      · obtain ⟨spent, -⟩ := paced.spent index stage here
        rw [if_pos rfl]
        exact ⟨by omega, ready⟩
      · rw [if_neg others]
        exact paced.spent other found there

/-- **No dispatch is held up**: it has come to its end, or it has steps left and can make one. -/
theorem ended_or_goes_on (ran : after? policy {} events = some run)
    (here : run.active[index]? = some stage) :
    (∃ answer, stage = .ended answer) ∨
    steps events index < policy.steps ∧
      ∃ event : Event, event.index? = some index ∧ (run.next? policy event).isSome := by
  obtain ⟨spent, ready⟩ := (paced_of_after? ran).spent index stage here
  have some_left (rest : 0 < stage.rest policy) : steps events index < policy.steps := by omega
  cases stage with
  | resolve =>
    refine .inr ⟨some_left (Nat.succ_pos _), .resolved index (.ok []), rfl, ?_⟩
    simp only [next?, here, Option.isSome_some]
  | take instances last left =>
    obtain ⟨left, rfl⟩ := Nat.exists_eq_succ_of_ne_zero ready.ne'
    refine .inr ⟨some_left (Nat.succ_pos _), .take index, rfl, ?_⟩
    simp only [next?, here, Option.isSome_some]
  | call instances place left =>
    refine .inr ⟨some_left (Nat.succ_pos _), .answered index (.error noCall), rfl, ?_⟩
    simp only [next?, here, Option.isSome_some]
  | ended answer => exact .inl ⟨answer, rfl⟩

end Run

end CodeJudge.Dispatch
