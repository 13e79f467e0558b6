import CodeJudge.Sandbox.Case
import CodeJudge.Verdict
import CodeJudge.Text.Decimal

/-!
# Resolving a verdict

All cases of a job run at once and race for its verdict: the first failure that is signalled, the
last pass, or the budget running out. This module holds the race as a machine whose steps can come in
any order that the rules of each step allow; `Resolver.Timed` runs it when the times are known.

The parts of the machine:

- the **tally** counts passing cases and keeps the largest measurements among them;
- the **channel** holds the failures signalled and not yet received, oldest first, with room for one
  of every case;
- the **permit** is stored when the tally reaches the number of cases;
- the **timer** rings once when the budget has elapsed;
- the **resolver** waits for any of the three, takes one that is ready, reads the tally once more
  (the snapshot), and then cancels and joins every case that has not finished.

A case that finishes does so in one step: it enters the tally, storing the permit if it is the last,
or it enters the channel. Cases go on finishing while the resolver is between its steps; the snapshot
is what counts.
-/

namespace CodeJudge.Resolver

open Sandbox (Report Outcome)

/-- The final verdict of a job and its statistics. -/
structure Resolution where
  verdict : Verdict
  passed : Nat
  total : Nat
  /-- In milliseconds. -/
  runtime : Nat
  /-- In KiB. -/
  memory : Nat
  output : String
  deriving DecidableEq, Repr

/-- How a case finishes: with a report, or with a fault of the worker. -/
abbrev Finish := Except String Report

/-- What the passing cases add up to. -/
structure Tally where
  passed : Nat := 0
  elapsed : Nanos := 0
  memory : Int := 0
  deriving DecidableEq, Repr

/-- Counts a passing case. -/
def Tally.record (tally : Tally) (report : Report) : Tally where
  passed := tally.passed + 1
  elapsed := max tally.elapsed report.elapsed
  memory := max tally.memory report.memory

/-- The failure of a case. -/
structure Failure where
  index : Nat
  verdict : Verdict
  report : Option Report
  output : String
  deriving DecidableEq, Repr

/-- The verdict that an outcome decides. -/
def verdictOf : Outcome → Verdict
  | .pass => .accepted
  | .wrongAnswer => .wrongAnswer
  | .runtimeError => .runtimeError
  | .memoryLimitExceeded => .memoryLimitExceeded

/-- The failure that a finished case signals, or its report if it passed. -/
def Failure.ofFinish (index : Nat) : Finish → Failure ⊕ Report
  | .ok report =>
    if report.outcome = .pass then .inr report
    else .inl ⟨index, verdictOf report.outcome, some report, report.output⟩
  | .error text => .inl ⟨index, .systemError, none, text⟩

/-- What the resolver took when it stopped waiting. -/
inductive Decision
  | failed (failure : Failure)
  | allPassed
  | budgetElapsed
  deriving DecidableEq, Repr

/-- The machine. -/
structure State where
  tally : Tally := {}
  channel : List Failure := []
  permit : Bool := false
  timer : Bool := false
  /-- The cases that have finished. -/
  finished : List Nat := []
  /-- The failures that found no room in the channel. -/
  dropped : List Failure := []
  decision : Option Decision := none
  snapshot : Option Tally := none
  /-- Whether the cases have been cancelled and joined. -/
  joined : Bool := false
  deriving DecidableEq, Repr

/-- A step that some part of the machine takes. -/
inductive Step
  /-- A case finishes. -/
  | finish (index : Nat) (how : Finish)
  /-- The budget elapses. -/
  | ring
  /-- The resolver receives a failure. -/
  | receive
  /-- The resolver takes the permit. -/
  | take
  /-- The resolver sees that the timer has rung. -/
  | expire
  /-- The resolver reads the tally. -/
  | read
  /-- The resolver cancels and joins the cases. -/
  | join

/-- The number of cases as it is counted, in 32 bits. -/
def counted (cases : Nat) : Nat := cases % 4294967296

/-- A case finishes with a pass. -/
def State.pass (state : State) (cases index : Nat) (report : Report) : State :=
  let tally := state.tally.record report
  { state with
    tally
    permit := state.permit || tally.passed = counted cases
    finished := index :: state.finished }

/-- A case finishes with a failure. -/
def State.fail (state : State) (cases : Nat) (failure : Failure) : State :=
  let state := { state with finished := failure.index :: state.finished }
  if state.channel.length < cases then { state with channel := state.channel ++ [failure] }
  else { state with dropped := failure :: state.dropped }

/-- The state after a step, for a job of so many cases; none when the step cannot be taken. -/
def State.step? (cases : Nat) (state : State) : Step → Option State
  | .finish index how =>
    if index < cases ∧ index ∉ state.finished ∧ !state.joined then
      match Failure.ofFinish index how with
      | .inr report => some (state.pass cases index report)
      | .inl failure => some (state.fail cases failure)
    else none
  | .ring => if state.timer then none else some { state with timer := true }
  | .receive =>
    match state.decision, state.channel with
    | none, failure :: rest =>
      some { state with channel := rest, decision := some (.failed failure) }
    | _, _ => none
  | .take =>
    if state.decision.isNone ∧ state.permit then
      some { state with permit := false, decision := some .allPassed }
    else none
  | .expire =>
    if state.decision.isNone ∧ state.timer then
      some { state with decision := some .budgetElapsed }
    else none
  | .read =>
    if state.decision.isSome ∧ state.snapshot.isNone then
      some { state with snapshot := some state.tally }
    else none
  | .join =>
    if state.snapshot.isSome ∧ !state.joined then some { state with joined := true } else none

/-- The state after steps taken one after another; none when one of them cannot be taken. -/
def State.run? (cases : Nat) (state : State) (steps : List Step) : Option State :=
  steps.foldlM (State.step? cases) state

/-- The largest count that the answer can hold. -/
def greatest : Nat := 4294967295

/-- The answer that a decision and a snapshot give. The measurements of the case that failed count
beside those of the cases that passed. -/
def resolution (total : Nat) (decision : Decision) (snapshot : Tally) : Resolution :=
  let measured : Tally :=
    match decision with
    | .failed { report := some report, .. } =>
      { snapshot with
        elapsed := max snapshot.elapsed report.elapsed
        memory := max snapshot.memory report.memory }
    | _ => snapshot
  let (verdict, output) : Verdict × String :=
    match decision with
    | .failed failure => (failure.verdict, failure.output)
    | .allPassed => (.accepted, "")
    | .budgetElapsed =>
      if snapshot.passed = total then (.accepted, "") else (.timeLimitExceeded, "")
  { verdict, output, total
    passed := snapshot.passed
    runtime := min measured.elapsed.milliseconds greatest
    memory := (Decimal.uint32.clamp measured.memory).toNat }

/-- The answer of a machine that has come to its end. -/
def State.resolution? (cases : Nat) (state : State) : Option Resolution :=
  match state.decision, state.snapshot, state.joined with
  | some decision, some snapshot, true => some (resolution (counted cases) decision snapshot)
  | _, _, _ => none

/-- The answer to a job without cases. -/
def withoutCases : Resolution where
  verdict := .systemError
  passed := 0
  total := 0
  runtime := 0
  memory := 0
  output := "job has no test cases"

end CodeJudge.Resolver
