import CodeJudge.Proofs.Runs
import CodeJudge.Resolver.Machine
import Mathlib.Algebra.Group.Nat.Defs
import Mathlib.Data.Finset.Card
import Mathlib.Data.List.Nodup

/-!
# The race, in every order of its steps

`Resolver.Machine` lets the cases, the timer and the resolver take their steps in any order. This
module says what holds of the race however they are ordered.

What a step does is said once, by the rules of `Moves`; `run?_induction` carries a property from the
start of a race along its moves. `Tracks` is the invariant: it ties the tally, the channel, the permit
and the timer to the steps taken so far, so that nothing is known of a state but what its history
shows.

**The law** (`verdict_safe`): the answer is a fact about the steps before the snapshot. It is
`accepted` exactly when every case had passed by then; a failure is that of the case that failed
first; a time limit is exceeded only after the timer has rung, with passes missing; and no failure
finds the channel full.

**What it does not establish.** That a race ends, and that of several events the earliest decides: the
resolver takes any branch that is ready when it looks.
-/

namespace CodeJudge.Resolver

open Sandbox (Report Outcome)

/-! ## How a case finishes -/

/-- Whether a case finished with a pass. -/
def Finish.passes : Finish → Bool
  | .ok report => report.outcome = .pass
  | .error _ => false

/-- The verdict that a finish stands for. A fault of the worker is a system error. -/
def Finish.verdict : Finish → Verdict
  | .ok report => verdictOf report.outcome
  | .error _ => .systemError

/-- What a finish has to show: the output of the program, or the text of the fault. -/
def Finish.output : Finish → String
  | .ok report => report.output
  | .error text => text

/-- The failure of a case that finished so. -/
def Finish.failure (index : Nat) (how : Finish) : Failure :=
  ⟨index, how.verdict, how.toOption, how.output⟩

/-- A finish without a pass stands for another verdict than acceptance. -/
theorem Finish.verdict_ne_accepted {how : Finish} (failed : how.passes = false) :
    how.verdict ≠ .accepted := by
  cases how with
  | error text => simp only [Finish.verdict, ne_eq, reduceCtorEq, not_false_eq_true]
  | ok report =>
    simp only [Finish.passes, decide_eq_false_iff_not] at failed
    cases h : report.outcome <;> simp_all [Finish.verdict, verdictOf]

/-- The verdicts that finishes stand for leave out those of the compiler and of the timer. -/
theorem Finish.verdict_ne_timeLimitExceeded (how : Finish) :
    how.verdict ≠ .timeLimitExceeded := by
  cases how with
  | error text => simp only [Finish.verdict, ne_eq, reduceCtorEq, not_false_eq_true]
  | ok report => cases h : report.outcome <;> simp [Finish.verdict, verdictOf, h]

/-- Only a report can be a pass. -/
theorem Finish.exists_of_passes {how : Finish} (passes : how.passes = true) :
    ∃ report, how = .ok report ∧ report.outcome = .pass := by
  cases how with
  | error text => cases passes
  | ok report => exact ⟨report, rfl, of_decide_eq_true passes⟩

theorem ofFinish_pass {index : Nat} {report : Report} (passed : report.outcome = .pass) :
    Failure.ofFinish index (.ok report) = .inr report := by
  simp only [Failure.ofFinish, passed, ↓reduceIte]

theorem ofFinish_fail {index : Nat} {how : Finish} (failed : how.passes = false) :
    Failure.ofFinish index how = .inl (how.failure index) := by
  cases how with
  | error text => rfl
  | ok report =>
    simp only [Finish.passes, decide_eq_false_iff_not] at failed
    simp only [Failure.ofFinish, failed, ↓reduceIte]
    rfl

/-- A failure leaves what the resolver has read. -/
theorem State.fail_snapshot (state : State) (cases : Nat) (failure : Failure) :
    (state.fail cases failure).snapshot = state.snapshot := by
  simp only [State.fail]
  split <;> rfl

/-- A failure leaves what the resolver has decided. -/
theorem State.fail_decision (state : State) (cases : Nat) (failure : Failure) :
    (state.fail cases failure).decision = state.decision := by
  simp only [State.fail]
  split <;> rfl

/-- Cases are counted right unless they are too many for a word of 32 bits. -/
theorem counted_of_lt {cases : Nat} (few : cases < 2 ^ 32) : counted cases = cases :=
  Nat.mod_eq_of_lt few

/-! ## The rules of a step -/

/-- **What a step of the race does**, one rule for every part that can move. -/
inductive Moves (cases : Nat) (state : State) : Step → State → Prop
  | pass {index : Nat} {report : Report} (known : index < cases) (fresh : index ∉ state.finished)
      (racing : state.joined = false) (passed : report.outcome = .pass) :
      Moves cases state (.finish index (.ok report)) (state.pass cases index report)
  | fail {index : Nat} {how : Finish} (known : index < cases) (fresh : index ∉ state.finished)
      (racing : state.joined = false) (failed : how.passes = false) :
      Moves cases state (.finish index how) (state.fail cases (how.failure index))
  | ring (silent : state.timer = false) : Moves cases state .ring { state with timer := true }
  | receive {failure : Failure} {rest : List Failure} (waiting : state.decision = none)
      (sent : state.channel = failure :: rest) :
      Moves cases state .receive
        { state with channel := rest, decision := some (.failed failure) }
  | take (waiting : state.decision = none) (stored : state.permit = true) :
      Moves cases state .take { state with permit := false, decision := some .allPassed }
  | expire (waiting : state.decision = none) (rung : state.timer = true) :
      Moves cases state .expire { state with decision := some .budgetElapsed }
  | read {decision : Decision} (decided : state.decision = some decision)
      (unread : state.snapshot = none) :
      Moves cases state .read { state with snapshot := some state.tally }
  | join {tally : Tally} (seen : state.snapshot = some tally) (racing : state.joined = false) :
      Moves cases state .join { state with joined := true }

/-- Every step that the machine takes follows one of the rules. -/
theorem moves_of_step? {cases : Nat} {state next : State} {step : Step}
    (taken : state.step? cases step = some next) : Moves cases state step next := by
  cases step with
  | finish index how =>
    simp only [State.step?, Bool.not_eq_true'] at taken
    split at taken
    · rename_i allowed
      obtain ⟨known, fresh, racing⟩ := allowed
      cases passes : how.passes with
      | false =>
        rw [ofFinish_fail passes] at taken
        cases taken
        exact .fail known fresh racing passes
      | true =>
        obtain ⟨report, rfl, passed⟩ := Finish.exists_of_passes passes
        rw [ofFinish_pass passed] at taken
        cases taken
        exact .pass known fresh racing passed
    · cases taken
  | ring =>
    simp only [State.step?] at taken
    split at taken
    · cases taken
    · rename_i silent
      cases taken
      exact .ring (eq_false_of_ne_true silent)
  | receive =>
    simp only [State.step?] at taken
    split at taken
    · rename_i failure rest waiting sent
      cases taken
      exact .receive waiting sent
    · cases taken
  | take =>
    simp only [State.step?, Option.isNone_iff_eq_none] at taken
    split at taken
    · rename_i ready
      cases taken
      exact .take ready.1 ready.2
    · cases taken
  | expire =>
    simp only [State.step?, Option.isNone_iff_eq_none] at taken
    split at taken
    · rename_i ready
      cases taken
      exact .expire ready.1 ready.2
    · cases taken
  | read =>
    simp only [State.step?, Option.isNone_iff_eq_none] at taken
    split at taken
    · rename_i ready
      obtain ⟨decision, decided⟩ := Option.isSome_iff_exists.mp ready.1
      cases taken
      exact .read decided ready.2
    · cases taken
  | join =>
    simp only [State.step?, Bool.not_eq_true'] at taken
    split at taken
    · rename_i ready
      obtain ⟨tally, seen⟩ := Option.isSome_iff_exists.mp ready.1
      cases taken
      exact .join seen ready.2
    · cases taken

/-- Every rule can be followed. -/
theorem step?_of_moves {cases : Nat} {state next : State} {step : Step}
    (moves : Moves cases state step next) : state.step? cases step = some next := by
  cases moves with
  | pass known fresh racing passed =>
    simp only [State.step?, known, fresh, racing, not_false_eq_true, Bool.not_false, and_self,
      ↓reduceIte, ofFinish_pass passed]
  | fail known fresh racing failed =>
    simp only [State.step?, known, fresh, racing, not_false_eq_true, Bool.not_false, and_self,
      ↓reduceIte, ofFinish_fail failed]
  | ring silent => simp only [State.step?, silent, Bool.false_eq_true, ↓reduceIte]
  | receive waiting sent => simp only [State.step?, waiting, sent]
  | take waiting stored =>
    simp only [State.step?, waiting, stored, Option.isNone_none, and_self, ↓reduceIte]
  | expire waiting rung =>
    simp only [State.step?, waiting, rung, Option.isNone_none, and_self, ↓reduceIte]
  | read decided unread =>
    simp only [State.step?, decided, unread, Option.isSome_some, Option.isNone_none, and_self,
      ↓reduceIte]
  | join seen racing =>
    simp only [State.step?, seen, racing, Option.isSome_some, Bool.not_false, and_self, ↓reduceIte]

/-! ## Runs -/

/-- **Induction along a race**: what holds at the start, and is carried on by every move, holds
wherever a race has come to. -/
theorem run?_induction {cases : Nat} {motive : List Step → State → Prop} (start : motive [] {})
    (move : ∀ {steps state step next}, State.run? cases {} steps = some state →
      motive steps state → Moves cases state step next → motive (steps ++ [step]) next)
    {steps : List Step} {state : State} (ran : State.run? cases {} steps = some state) :
    motive steps state :=
  foldlM_induction start (fun ran held taken => move ran held (moves_of_step? taken)) ran

/-! ## What a history shows -/

/-- The pass that a step brings: which case, and its report. -/
def Step.pass? : Step → Option (Nat × Report)
  | .finish index (.ok report) => if report.outcome = .pass then some (index, report) else none
  | _ => none

/-- The failure that a step signals. -/
def Step.failure? : Step → Option Failure
  | .finish index how => if how.passes then none else some (how.failure index)
  | _ => none

/-- The passes in a history. -/
def passedIn (steps : List Step) : List (Nat × Report) := steps.filterMap Step.pass?

/-- The failures in a history, in the order in which they were signalled. -/
def failedIn (steps : List Step) : List Failure := steps.filterMap Step.failure?

/-- The cases that have reported a pass in a history. -/
def passers (steps : List Step) : Finset Nat := ((passedIn steps).map (·.1)).toFinset

theorem Step.pass?_finish_pass {report : Report} (passed : report.outcome = .pass) (index : Nat) :
    (Step.finish index (.ok report)).pass? = some (index, report) := if_pos passed

theorem Step.failure?_finish_pass {report : Report} (passed : report.outcome = .pass)
    (index : Nat) : (Step.finish index (.ok report)).failure? = none := by
  simp only [Step.failure?, Finish.passes, passed, decide_true, ↓reduceIte]

theorem Step.pass?_finish_fail {how : Finish} (failed : how.passes = false) (index : Nat) :
    (Step.finish index how).pass? = none := by
  cases how with
  | error text => rfl
  | ok report => exact if_neg (of_decide_eq_false failed)

theorem Step.failure?_finish_fail {how : Finish} (failed : how.passes = false) (index : Nat) :
    (Step.finish index how).failure? = some (how.failure index) := by
  simp only [Step.failure?, failed, Bool.false_eq_true, ↓reduceIte]

theorem passedIn_append_step (steps : List Step) (step : Step) :
    passedIn (steps ++ [step]) = passedIn steps ++ step.pass?.toList := by
  simp only [passedIn, List.filterMap_append, List.filterMap_cons, List.filterMap_nil]
  cases step.pass? <;> rfl

theorem failedIn_append_step (steps : List Step) (step : Step) :
    failedIn (steps ++ [step]) = failedIn steps ++ step.failure?.toList := by
  simp only [failedIn, List.filterMap_append, List.filterMap_cons, List.filterMap_nil]
  cases step.failure? <;> rfl

/-- A case has reported a pass exactly when its passing report stands in the history. -/
theorem mem_passers {steps : List Step} {index : Nat} :
    index ∈ passers steps ↔
      ∃ report, Step.finish index (.ok report) ∈ steps ∧ report.outcome = .pass := by
  simp only [passers, passedIn, List.mem_toFinset, List.mem_map, List.mem_filterMap]
  constructor
  · rintro ⟨⟨_, report⟩, ⟨step, taken, counted⟩, rfl⟩
    unfold Step.pass? at counted
    split at counted
    · split at counted
      · rename_i passed
        cases counted
        exact ⟨report, taken, passed⟩
      · cases counted
    · cases counted
  · rintro ⟨report, taken, passed⟩
    exact ⟨(index, report), ⟨_, taken, Step.pass?_finish_pass passed index⟩, rfl⟩

/-- The first failure of a history is that of a case before which every finish was a pass. -/
theorem first_failure {steps : List Step} {failure : Failure} {rest : List Failure}
    (failures : failedIn steps = failure :: rest) :
    ∃ earlier index how later, steps = earlier ++ .finish index how :: later ∧
      (∀ other finish, Step.finish other finish ∈ earlier → finish.passes = true) ∧
      how.passes = false ∧ failure = how.failure index := by
  obtain ⟨earlier, step, later, rfl, quiet, signals, -⟩ :=
    List.filterMap_eq_cons_iff.mp failures
  cases step with
  | finish index how =>
    cases passes : how.passes with
    | true => simp only [Step.failure?, passes, ↓reduceIte, reduceCtorEq] at signals
    | false =>
      rw [Step.failure?_finish_fail passes] at signals
      refine ⟨earlier, index, how, later, rfl, fun other finish mem => ?_, passes,
        (Option.some.inj signals).symm⟩
      cases passed : finish.passes with
      | true => rfl
      | false => exact absurd (quiet _ mem) (by simp [Step.failure?_finish_fail passed])
  | _ => cases signals

/-! ## The invariant -/

/-- The failure that the resolver has received, if it has received one. -/
def State.received (state : State) : List Failure :=
  match state.decision with
  | some (.failed failure) => [failure]
  | _ => []

/-- **What a state has to do with the steps that led to it.** -/
structure Tracks (cases : Nat) (steps : List Step) (state : State) : Prop where
  /-- No case finishes twice. -/
  fresh : state.finished.Nodup
  known : ∀ index ∈ state.finished, index < cases
  /-- Every case that has finished has passed or failed. -/
  split : state.finished.Perm ((passedIn steps).map (·.1) ++ (failedIn steps).map (·.index))
  /-- The tally is that of the passes, in their order. -/
  tally : state.tally = ((passedIn steps).map (·.2)).foldl Tally.record {}
  /-- The channel holds what was signalled and not received, oldest first. -/
  sent : failedIn steps = state.received ++ state.channel
  dropped : state.dropped = []
  permit : state.permit = true ∨ state.decision = some .allPassed → state.tally.passed = cases
  timer : state.timer = true ∨ state.decision = some .budgetElapsed → Step.ring ∈ steps

/-- Recording reports one after another counts them. -/
theorem passed_foldl_record (reports : List Report) (tally : Tally) :
    (reports.foldl Tally.record tally).passed = tally.passed + reports.length := by
  induction reports generalizing tally with
  | nil => rfl
  | cons report rest ih =>
    rw [List.foldl_cons, ih, List.length_cons]
    simp only [Tally.record]
    omega

namespace Tracks

variable {cases : Nat} {steps : List Step} {state : State}

/-- The tally counts the passes. -/
theorem passed_eq (tracks : Tracks cases steps state) :
    state.tally.passed = (passedIn steps).length := by
  rw [tracks.tally, passed_foldl_record, List.length_map]
  exact Nat.zero_add _

/-- No more cases finish than there are. -/
theorem finished_le (tracks : Tracks cases steps state) : state.finished.length ≤ cases := by
  have inside : state.finished.toFinset ⊆ Finset.range cases := fun index mem =>
    Finset.mem_range.mpr (tracks.known index (List.mem_toFinset.mp mem))
  have bound := Finset.card_le_card inside
  rwa [List.toFinset_card_of_nodup tracks.fresh, Finset.card_range] at bound

/-- Passes and failures together are the cases that have finished. -/
theorem length_add (tracks : Tracks cases steps state) :
    (passedIn steps).length + (failedIn steps).length = state.finished.length := by
  have lengths := tracks.split.length_eq
  rw [List.length_append, List.length_map, List.length_map] at lengths
  exact lengths.symm

/-- The passing cases are as many as the tally counts. -/
theorem card_passers (tracks : Tracks cases steps state) :
    (passers steps).card = state.tally.passed := by
  have fresh := (tracks.split.nodup_iff.mp tracks.fresh).of_append_left
  rw [tracks.passed_eq, passers, List.toFinset_card_of_nodup fresh, List.length_map]

/-- Only cases of the job pass. -/
theorem passers_subset (tracks : Tracks cases steps state) :
    passers steps ⊆ Finset.range cases := fun index mem =>
  Finset.mem_range.mpr (tracks.known index
    (tracks.split.mem_iff.mpr (List.mem_append_left _ (List.mem_toFinset.mp mem))))

/-- All cases have passed exactly when the tally has reached their number. -/
theorem passers_eq_iff (tracks : Tracks cases steps state) :
    passers steps = Finset.range cases ↔ state.tally.passed = cases := by
  rw [← tracks.card_passers]
  constructor
  · intro all
    rw [all, Finset.card_range]
  · intro full
    exact Finset.eq_of_subset_of_card_le tracks.passers_subset
      (by rw [full, Finset.card_range])

/-- A case that can still finish leaves room for itself among those that have. -/
theorem finished_lt (tracks : Tracks cases steps state) {index : Nat} (known : index < cases)
    (fresh : index ∉ state.finished) : state.finished.length < cases := by
  have inside : (index :: state.finished).toFinset ⊆ Finset.range cases := by
    intro other mem
    rcases List.mem_cons.mp (List.mem_toFinset.mp mem) with rfl | mem
    · exact Finset.mem_range.mpr known
    · exact Finset.mem_range.mpr (tracks.known other mem)
  have bound := Finset.card_le_card inside
  rwa [List.toFinset_card_of_nodup (List.nodup_cons.mpr ⟨fresh, tracks.fresh⟩),
    Finset.card_range] at bound

/-- While a case can still finish, not all have passed: the permit is neither stored nor taken. -/
theorem no_permit (tracks : Tracks cases steps state) {index : Nat} (known : index < cases)
    (fresh : index ∉ state.finished) :
    ¬ (state.permit = true ∨ state.decision = some .allPassed) := by
  intro permit
  have full := tracks.permit permit
  have room := tracks.finished_lt known fresh
  have counted := tracks.length_add
  rw [tracks.passed_eq] at full
  omega

/-- The channel has room for the failure of a case that can still finish. -/
theorem channel_lt (tracks : Tracks cases steps state) {index : Nat} (known : index < cases)
    (fresh : index ∉ state.finished) : state.channel.length < cases := by
  have room := tracks.finished_lt known fresh
  have counted := tracks.length_add
  have sent := congrArg List.length tracks.sent
  rw [List.length_append] at sent
  omega

/-- Nothing has happened at the start. -/
theorem start : Tracks cases [] {} where
  fresh := List.nodup_nil
  known := fun _ mem => absurd mem List.not_mem_nil
  split := .nil
  tally := rfl
  sent := rfl
  dropped := rfl
  permit := by simp only [Bool.false_eq_true, reduceCtorEq, or_self, false_implies]
  timer := by simp only [Bool.false_eq_true, reduceCtorEq, or_self, false_implies]

/-- A pass enters the tally, and stores the permit when it is the last. -/
theorem pass (tracks : Tracks cases steps state) (few : cases < 2 ^ 32) {index : Nat}
    {report : Report} (known : index < cases) (fresh : index ∉ state.finished)
    (passed : report.outcome = .pass) :
    Tracks cases (steps ++ [.finish index (.ok report)]) (state.pass cases index report) where
  fresh := List.nodup_cons.mpr ⟨fresh, tracks.fresh⟩
  known := List.forall_mem_cons.mpr ⟨known, tracks.known⟩
  split := by
    rw [passedIn_append_step, failedIn_append_step, Step.pass?_finish_pass passed,
      Step.failure?_finish_pass passed]
    simp only [State.pass, Option.toList_some, Option.toList_none, List.append_nil, List.map_append,
      List.map_cons, List.map_nil, List.append_assoc, List.singleton_append]
    exact (tracks.split.cons index).trans List.perm_middle.symm
  tally := by
    rw [passedIn_append_step, Step.pass?_finish_pass passed]
    simp only [State.pass, Option.toList_some, List.map_append, List.map_cons, List.map_nil,
      List.foldl_append, List.foldl_cons, List.foldl_nil, ← tracks.tally]
  sent := by
    rw [failedIn_append_step, Step.failure?_finish_pass passed, Option.toList_none,
      List.append_nil]
    exact tracks.sent
  dropped := tracks.dropped
  permit := by
    intro permit
    simp only [State.pass, counted_of_lt few, Bool.or_eq_true, decide_eq_true_eq]
      at permit ⊢
    rcases permit with (permit | last) | taken
    · exact absurd (.inl permit) (tracks.no_permit known fresh)
    · exact last
    · exact absurd (.inr taken) (tracks.no_permit known fresh)
  timer := fun rung => List.mem_append_left _ (tracks.timer rung)

/-- A failure goes into the channel, which has room for it. -/
theorem fail (tracks : Tracks cases steps state) {index : Nat} {how : Finish}
    (known : index < cases) (fresh : index ∉ state.finished) (failed : how.passes = false) :
    Tracks cases (steps ++ [.finish index how]) (state.fail cases (how.failure index)) := by
  have room := tracks.channel_lt known fresh
  have came : state.fail cases (how.failure index) =
      { state with
        finished := index :: state.finished
        channel := state.channel ++ [how.failure index] } := if_pos room
  have passes : passedIn (steps ++ [.finish index how]) = passedIn steps := by
    rw [passedIn_append_step, Step.pass?_finish_fail failed, Option.toList_none, List.append_nil]
  have failures : failedIn (steps ++ [.finish index how]) =
      failedIn steps ++ [how.failure index] := by
    rw [failedIn_append_step, Step.failure?_finish_fail failed, Option.toList_some]
  rw [came]
  exact {
    fresh := List.nodup_cons.mpr ⟨fresh, tracks.fresh⟩
    known := List.forall_mem_cons.mpr ⟨known, tracks.known⟩
    split := by
      rw [passes, failures, List.map_append, ← List.append_assoc]
      exact (tracks.split.cons index).trans (List.perm_append_singleton index _).symm
    tally := by rw [passes]; exact tracks.tally
    sent := by rw [failures, tracks.sent, List.append_assoc]; rfl
    dropped := tracks.dropped
    permit := fun permit => absurd permit (tracks.no_permit known fresh)
    timer := fun rung => List.mem_append_left _ (tracks.timer rung) }

/-- A step that is no finish leaves the cases, the tally and the signals as they were. -/
theorem quiet (tracks : Tracks cases steps state) {step : Step} {next : State}
    (pass : step.pass? = none) (failure : step.failure? = none)
    (finished : next.finished = state.finished) (tally : next.tally = state.tally)
    (sent : next.received ++ next.channel = state.received ++ state.channel)
    (dropped : next.dropped = state.dropped)
    (permit : next.permit = true ∨ next.decision = some .allPassed →
      state.permit = true ∨ state.decision = some .allPassed)
    (timer : next.timer = true ∨ next.decision = some .budgetElapsed →
      step = .ring ∨ state.timer = true ∨ state.decision = some .budgetElapsed) :
    Tracks cases (steps ++ [step]) next := by
  have passes : passedIn (steps ++ [step]) = passedIn steps := by
    rw [passedIn_append_step, pass, Option.toList_none, List.append_nil]
  have failures : failedIn (steps ++ [step]) = failedIn steps := by
    rw [failedIn_append_step, failure, Option.toList_none, List.append_nil]
  exact {
    fresh := by rw [finished]; exact tracks.fresh
    known := by rw [finished]; exact tracks.known
    split := by rw [finished, passes, failures]; exact tracks.split
    tally := by rw [tally, passes]; exact tracks.tally
    sent := by rw [failures, sent]; exact tracks.sent
    dropped := by rw [dropped]; exact tracks.dropped
    permit := fun h => by rw [tally]; exact tracks.permit (permit h)
    timer := by
      intro h
      rcases timer h with rfl | rung
      · exact List.mem_append_right _ (List.mem_singleton_self _)
      · exact List.mem_append_left _ (tracks.timer rung) }

/-- **Every move keeps the state in step with the history.** -/
theorem move (tracks : Tracks cases steps state) (few : cases < 2 ^ 32) {step : Step}
    {next : State} (moves : Moves cases state step next) : Tracks cases (steps ++ [step]) next := by
  cases moves with
  | pass known fresh racing passed => exact tracks.pass few known fresh passed
  | fail known fresh racing failed => exact tracks.fail known fresh failed
  | ring silent =>
    exact tracks.quiet rfl rfl rfl rfl rfl rfl id fun _ => .inl rfl
  | receive waiting sent =>
    refine tracks.quiet rfl rfl rfl rfl ?_ rfl ?_ ?_
    · simp only [State.received, waiting, sent, List.singleton_append, List.nil_append]
    · simp only [reduceCtorEq, Option.some.injEq, or_false]
      exact .inl
    · simp only [reduceCtorEq, Option.some.injEq, or_false]
      exact fun rung => .inr (.inl rung)
  | take waiting stored =>
    refine tracks.quiet rfl rfl rfl rfl ?_ rfl (fun _ => .inl stored) ?_
    · simp only [State.received, waiting]
    · simp only [reduceCtorEq, Option.some.injEq, or_false]
      exact fun rung => .inr (.inl rung)
  | expire waiting rung =>
    refine tracks.quiet rfl rfl rfl rfl ?_ rfl ?_ fun _ => .inr (.inl rung)
    · simp only [State.received, waiting]
    · simp only [reduceCtorEq, Option.some.injEq, or_false]
      exact .inl
  | read decided unread =>
    exact tracks.quiet rfl rfl rfl rfl rfl rfl id .inr
  | join seen racing =>
    exact tracks.quiet rfl rfl rfl rfl rfl rfl id .inr

end Tracks

/-- Wherever a race has come to, its state tells what has happened. -/
theorem tracks_of_run? {cases : Nat} (few : cases < 2 ^ 32) {steps : List Step} {state : State}
    (ran : State.run? cases {} steps = some state) : Tracks cases steps state :=
  run?_induction .start (fun _ tracks moves => tracks.move few moves) ran

/-! ## The snapshot -/

/-- Where the resolver stands with its answer: it has not read the tally yet, or it read it at one
point of the history, having decided before. -/
structure Reading (cases : Nat) (steps : List Step) (state : State) : Prop where
  unread : state.snapshot = none → Step.read ∉ steps
  split : ∀ tally, state.snapshot = some tally →
    ∃ before after reader decision, steps = before ++ .read :: after ∧ Step.read ∉ before ∧
      State.run? cases {} before = some reader ∧ reader.tally = tally ∧
      reader.decision = some decision ∧ state.decision = some decision

/-- A move that reads nothing and takes back no decision leaves the reading where it was. -/
theorem Reading.quiet {cases : Nat} {steps : List Step} {state next : State} {step : Step}
    (reading : Reading cases steps state) (other : step ≠ .read)
    (snapshot : next.snapshot = state.snapshot)
    (decision : ∀ decision, state.decision = some decision → next.decision = some decision) :
    Reading cases (steps ++ [step]) next where
  unread := by
    intro none
    rw [snapshot] at none
    intro mem
    rcases List.mem_append.mp mem with mem | mem
    · exact reading.unread none mem
    · exact other (List.mem_singleton.mp mem).symm
  split := by
    intro tally seen
    rw [snapshot] at seen
    obtain ⟨before, after, reader, decided, rfl, first, ran, counted, then_, now⟩ :=
      reading.split tally seen
    exact ⟨before, after ++ [step], reader, decided,
      by rw [List.append_assoc, List.cons_append], first, ran, counted, then_,
      decision _ now⟩

/-- The tally is read once, after the decision. -/
theorem reading_of_run? {cases : Nat} {steps : List Step} {state : State}
    (ran : State.run? cases {} steps = some state) : Reading cases steps state := by
  refine run?_induction (motive := Reading cases) ⟨fun _ => List.not_mem_nil, nofun⟩ ?_ ran
  intro steps state step next ran reading moves
  cases moves with
  | pass known fresh racing passed => exact reading.quiet nofun rfl fun _ => id
  | fail known fresh racing failed =>
    refine reading.quiet nofun (State.fail_snapshot ..) fun _ h => ?_
    rw [State.fail_decision]
    exact h
  | ring silent => exact reading.quiet nofun rfl fun _ => id
  | receive waiting sent => exact reading.quiet nofun rfl fun _ h => by rw [waiting] at h; cases h
  | take waiting stored => exact reading.quiet nofun rfl fun _ h => by rw [waiting] at h; cases h
  | expire waiting rung => exact reading.quiet nofun rfl fun _ h => by rw [waiting] at h; cases h
  | @read decision decided unread =>
    refine ⟨nofun, fun tally seen => ?_⟩
    cases seen
    exact ⟨steps, [], state, decision, rfl, reading.unread unread, ran, rfl, decided, decided⟩
  | join seen racing => exact reading.quiet nofun rfl fun _ => id

/-! ## The verdict -/

/-- **What the answer says of the steps before the snapshot.** -/
structure Safe (cases : Nat) (before : List Step) (answer : Resolution) : Prop where
  /-- The count is that of the cases that had passed. -/
  counted : answer.passed = (passers before).card
  within : answer.passed ≤ cases
  accepted_iff_all : answer.verdict = .accepted ↔ passers before = Finset.range cases
  accepted_iff_count : answer.verdict = .accepted ↔ answer.passed = cases
  total : answer.total = cases
  /-- Where no case has failed there is nothing to show. -/
  silent : answer.verdict = .accepted ∨ answer.verdict = .timeLimitExceeded → answer.output = ""
  /-- A time limit is exceeded only when the budget has elapsed and passes are missing. -/
  late : answer.verdict = .timeLimitExceeded → Step.ring ∈ before ∧ (passers before).card < cases
  /-- Any other verdict is that of the case that failed first, and so is the output. -/
  failed : answer.verdict ≠ .accepted → answer.verdict ≠ .timeLimitExceeded →
    ∃ earlier index how later, before = earlier ++ .finish index how :: later ∧
      (∀ other finish, Step.finish other finish ∈ earlier → finish.passes = true) ∧
      how.passes = false ∧ answer.verdict = how.verdict ∧ answer.output = how.output

/-- The count of an answer is that of the snapshot. -/
theorem resolution_passed (total : Nat) (decision : Decision) (snapshot : Tally) :
    (resolution total decision snapshot).passed = snapshot.passed := rfl

namespace Tracks

variable {cases : Nat} {steps : List Step} {state : State} {decision : Decision}

/-- What is to be said of an answer beside its count: when it accepts, and what it shows when it does
not. -/
theorem safe_of (tracks : Tracks cases steps state)
    (accepted : (resolution cases decision state.tally).verdict = .accepted ↔
      state.tally.passed = cases)
    (silent : (resolution cases decision state.tally).verdict = .accepted ∨
        (resolution cases decision state.tally).verdict = .timeLimitExceeded →
      (resolution cases decision state.tally).output = "")
    (late : (resolution cases decision state.tally).verdict = .timeLimitExceeded →
      Step.ring ∈ steps)
    (failed : (resolution cases decision state.tally).verdict ≠ .accepted →
      (resolution cases decision state.tally).verdict ≠ .timeLimitExceeded →
      ∃ earlier index how later, steps = earlier ++ .finish index how :: later ∧
        (∀ other finish, Step.finish other finish ∈ earlier → finish.passes = true) ∧
        how.passes = false ∧ (resolution cases decision state.tally).verdict = how.verdict ∧
        (resolution cases decision state.tally).output = how.output) :
    Safe cases steps (resolution cases decision state.tally) := by
  have count := tracks.card_passers
  have bound := Finset.card_le_card tracks.passers_subset
  rw [Finset.card_range, count] at bound
  exact {
    counted := by rw [resolution_passed, count]
    within := bound
    accepted_iff_all := accepted.trans tracks.passers_eq_iff.symm
    accepted_iff_count := accepted
    total := rfl
    silent := silent
    late := by
      intro h
      have missing : state.tally.passed ≠ cases := by
        intro full
        rw [accepted.mpr full] at h
        cases h
      rw [count]
      exact ⟨late h, Nat.lt_of_le_of_ne bound missing⟩
    failed := failed }

/-- The answer to a failure that was received is that of the case that failed first. -/
theorem safe_failed (tracks : Tracks cases steps state) {failure : Failure}
    (decided : state.decision = some (.failed failure)) :
    Safe cases steps (resolution cases (.failed failure) state.tally) := by
  have sent : failedIn steps = failure :: state.channel := by
    have sent := tracks.sent
    simpa only [State.received, decided, List.singleton_append] using sent
  obtain ⟨earlier, index, how, later, rfl, quiet, fails, rfl⟩ := first_failure sent
  have missing : state.tally.passed ≠ cases := by
    have counted := tracks.length_add
    have bound := tracks.finished_le
    rw [sent, List.length_cons, ← tracks.passed_eq] at counted
    omega
  have refused : (resolution cases (.failed (how.failure index)) state.tally).verdict ≠ .accepted :=
    Finish.verdict_ne_accepted fails
  have prompt : (resolution cases (.failed (how.failure index)) state.tally).verdict ≠
      .timeLimitExceeded := how.verdict_ne_timeLimitExceeded
  refine tracks.safe_of ⟨fun h => absurd h refused, fun h => absurd h missing⟩ (fun h => ?_)
    (fun h => absurd h prompt)
    fun _ _ => ⟨earlier, index, how, later, rfl, quiet, fails, rfl, rfl⟩
  rcases h with h | h
  · exact absurd h refused
  · exact absurd h prompt

/-- The answer to the permit is an acceptance. -/
theorem safe_allPassed (tracks : Tracks cases steps state)
    (decided : state.decision = some .allPassed) :
    Safe cases steps (resolution cases .allPassed state.tally) := by
  have full := tracks.permit (.inr decided)
  have verdict : (resolution cases .allPassed state.tally).verdict = .accepted := rfl
  refine tracks.safe_of ⟨fun _ => full, fun _ => rfl⟩ (fun _ => rfl) (fun h => ?_)
    fun h => absurd verdict h
  rw [verdict] at h
  cases h

/-- The answer to the timer depends on whether passes are missing. -/
theorem safe_budgetElapsed (tracks : Tracks cases steps state)
    (decided : state.decision = some .budgetElapsed) :
    Safe cases steps (resolution cases .budgetElapsed state.tally) := by
  have rung := tracks.timer (.inr decided)
  by_cases full : state.tally.passed = cases
  · have verdict : (resolution cases .budgetElapsed state.tally).verdict = .accepted := by
      simp only [resolution, full, ↓reduceIte]
    have output : (resolution cases .budgetElapsed state.tally).output = "" := by
      simp only [resolution, full, ↓reduceIte]
    exact tracks.safe_of ⟨fun _ => full, fun _ => verdict⟩ (fun _ => output) (fun _ => rung)
      fun h => absurd verdict h
  · have verdict : (resolution cases .budgetElapsed state.tally).verdict = .timeLimitExceeded := by
      simp only [resolution, full, ↓reduceIte]
    have output : (resolution cases .budgetElapsed state.tally).output = "" := by
      simp only [resolution, full, ↓reduceIte]
    refine tracks.safe_of ⟨fun h => ?_, fun h => absurd h full⟩ (fun _ => output) (fun _ => rung)
      fun _ h => absurd verdict h
    rw [verdict] at h
    cases h

/-- The answer that a decision and a tally give is safe where the decision was taken and the tally
read. -/
theorem safe (tracks : Tracks cases steps state) (decided : state.decision = some decision) :
    Safe cases steps (resolution cases decision state.tally) := by
  cases decision with
  | failed failure => exact tracks.safe_failed decided
  | allPassed => exact tracks.safe_allPassed decided
  | budgetElapsed => exact tracks.safe_budgetElapsed decided

end Tracks

/-- The answer of a machine that has come to its end is safe where the tally was read. -/
theorem safe_of_resolution? {cases : Nat} {steps : List Step} {state : State} {answer : Resolution}
    (few : cases < 2 ^ 32) (ran : State.run? cases {} steps = some state)
    (ended : state.resolution? cases = some answer) :
    ∃ before after, steps = before ++ .read :: after ∧ Step.read ∉ before ∧
      Safe cases before answer := by
  unfold State.resolution? at ended
  split at ended
  · rename_i decision snapshot decided seen _
    cases ended
    obtain ⟨before, after, reader, _, rfl, first, earlier, rfl, then_, now⟩ :=
      (reading_of_run? ran).split snapshot seen
    rw [decided] at now
    cases now
    have safe := (tracks_of_run? few earlier).safe then_
    rw [counted_of_lt few]
    exact ⟨before, after, rfl, first, safe⟩
  · cases ended

/-- **The verdict is safe in every order of the steps.** Of a job with no more cases than can be
counted, no failure is dropped, and the answer has all its parts from the steps before the one at
which the tally was read. -/
theorem verdict_safe {cases : Nat} {steps : List Step} {state : State} (few : cases < 2 ^ 32)
    (ran : State.run? cases {} steps = some state) :
    state.dropped = [] ∧ ∀ answer, state.resolution? cases = some answer →
      ∃ before after, steps = before ++ .read :: after ∧ Step.read ∉ before ∧
        Safe cases before answer :=
  ⟨(tracks_of_run? few ran).dropped, fun _ ended => safe_of_resolution? few ran ended⟩

/-- A race of two cases in which the last pass comes after the resolver has seen the budget elapse, and
before it reads the tally. -/
def latePass : List Step :=
  [.finish 1 (.ok ⟨.pass, 7, 3, "b"⟩), .ring, .expire, .finish 0 (.ok ⟨.pass, 9, -2, "a"⟩), .read,
    .join]

/-- Where that race ends. -/
def latePassed : State where
  tally := ⟨2, 9, 3⟩
  permit := true
  timer := true
  finished := [0, 1]
  decision := some .budgetElapsed
  snapshot := some ⟨2, 9, 3⟩
  joined := true

theorem verdict_safe_latePass :
    2 < 2 ^ 32 ∧ State.run? 2 {} latePass = some latePassed ∧
      latePassed.resolution? 2 = some ⟨.accepted, 2, 2, 0, 3, ""⟩ ∧
      latePassed.dropped = [] ∧ ∀ answer, latePassed.resolution? 2 = some answer →
        ∃ before after, latePass = before ++ .read :: after ∧ Step.read ∉ before ∧
          Safe 2 before answer :=
  have ran : State.run? 2 {} latePass = some latePassed := by decide
  ⟨by decide, ran, by decide, verdict_safe (by decide) ran⟩

end CodeJudge.Resolver
