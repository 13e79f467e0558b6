import CodeJudge.Coordinator.Stage

/-!
# Submitting alone

A submission from its first stage to its end, when nothing else happens in between, with a record of
the calls and dispatches that it makes.
-/

namespace CodeJudge.Coordinator

open Store (Database)

/-- Which calls of the store fail, and how. -/
abbrev Faults := Call → Option Fault

/-- What a submission asks of others: a call of the store, or the judging of its job. -/
inductive Act
  | call (call : Call)
  | dispatch (job : Job)
  deriving DecidableEq, Repr

/-- The call of the store that an act is, if it is one. -/
def Act.call? : Act → Option Call
  | .call made => some made
  | .dispatch _ => none

/-- The job that an act has judged, if it has one judged. -/
def Act.job? : Act → Option Job
  | .call _ => none
  | .dispatch job => some job

/-- What a stage asks of others, if it asks for anything. -/
def Stage.act? : Stage → Option Act
  | .dispatch _ job => some (.dispatch job)
  | stage => stage.call?.map .call

/-- What a submission has done, in order. -/
structure Trace where
  acts : List Act := []
  deriving DecidableEq, Repr

namespace Trace

/-- The calls of the store. -/
def calls (trace : Trace) : List Call := trace.acts.filterMap Act.call?

/-- The jobs that were dispatched. -/
def dispatched (trace : Trace) : List Job := trace.acts.filterMap Act.job?

/-- Adds the step that a stage makes. -/
def add (trace : Trace) (stage : Stage) : Trace where
  acts := trace.acts ++ stage.act?.toList

end Trace

/-- Makes steps until the end, at most so many. Jobs are judged by an action of any kind. -/
def advance {m : Type → Type} [Monad m] (judge : Job → m (Except Fault JobResult)) (faults : Faults)
    (request : Request) : Nat → Stage × Database × Trace → m (Stage × Database × Trace)
  | 0, state => pure state
  | count + 1, (stage, database, trace) => do
    let judged ← match stage.job? with
      | some job => judge job
      | none => pure (.error (.other "nothing to judge"))
    let (next, database) := stage.step request (stage.call?.bind faults) judged database
    advance judge faults request count (next, database, trace.add stage)

/-- The number of steps after which every submission has ended. -/
def stages : Nat := 10

/-- What a submission answers, the store that it leaves, and what it has done. -/
def submit {m : Type → Type} [Monad m] (judge : Job → m (Except Fault JobResult)) (faults : Faults)
    (request : Request) (database : Database) :
    m (Except SubmitError Outcome × Database × Trace) := do
  let (stage, database, trace) ← advance judge faults request stages (.findUser, database, {})
  return (stage.answer?.getD (.error (.system (.other "not ended"))), database, trace)

end CodeJudge.Coordinator
