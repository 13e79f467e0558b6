import CodeJudge.Job
import CodeJudge.Store.Database
import CodeJudge.Submission

/-!
# The stages of a submission

What the coordinator does with one submission, one call at a time: the user and the problem are looked
up, the submission is kept, its job is put together from the cases and limits of the problem, a
worker judges it, and the judgement is kept. The first time that a user solves a problem, the user's
count goes up; looking for an earlier solution, keeping the judgement and counting are done under a
lock, so that no two submissions do them at once.

Each call of the store may fail instead of being made. A submission that has been kept stays, whatever
fails after it.
-/

namespace CodeJudge.Coordinator

open Store (Id Database NewSubmission NewJudgement CaseRow Limits)

/-- A call of the store. -/
inductive Call
  | userExists
  | problemExists
  | saveSubmission
  | testCases
  | limits
  | findPriorAccepted
  | saveJudgement
  | incrementSolvedCount
  deriving DecidableEq, Repr

/-- The name of a call. -/
def Call.name : Call → String
  | userExists => "user_exists"
  | problemExists => "problem_exists"
  | saveSubmission => "save_submission"
  | testCases => "test_cases"
  | limits => "limits"
  | findPriorAccepted => "find_prior_accepted"
  | saveJudgement => "save_judgement"
  | incrementSolvedCount => "increment_solved_count"

/-- A submission, and when it came. -/
structure Request where
  submission : Submission
  /-- A timestamp. -/
  time : String
  deriving DecidableEq, Repr

/-- The number of the user. -/
def Request.user (request : Request) : Id := request.submission.user.toInt

/-- The number of the problem. -/
def Request.problem (request : Request) : Id := request.submission.problem.toInt

/-- Why a submission was not judged. -/
inductive SubmitError
  | userNotFound (user : Id)
  | problemNotFound (problem : Id)
  | unsupportedLanguage (name : String)
  /-- The store or the dispatch failed. -/
  | system (fault : Fault)
  deriving DecidableEq, Repr

/-- What is said of a submission that was not judged. -/
def SubmitError.message : SubmitError → String
  | userNotFound user => "user " ++ Job.number user ++ " not found"
  | problemNotFound problem => "problem " ++ Job.number problem ++ " not found"
  | unsupportedLanguage name => Language.unsupported name
  | system fault => "system error: " ++ fault.message

/-- What the submitter gets back. -/
structure Outcome where
  submission : Id
  judgement : Id
  verdict : Verdict
  passed : Nat
  total : Nat
  /-- In milliseconds. -/
  runtime : Nat
  /-- In KiB. -/
  memory : Nat
  output : String
  deriving DecidableEq, Repr

/-- An outcome is written as an object of its fields. -/
def Outcome.toJson (outcome : Outcome) : Json.Value :=
  .object [
    ("submission_id", .int outcome.submission),
    ("judgement_id", .int outcome.judgement),
    ("verdict", outcome.verdict.toJson),
    ("pass_num", .int outcome.passed),
    ("total_num", .int outcome.total),
    ("runtime", .int outcome.runtime),
    ("memory_usage", .int outcome.memory),
    ("output", .string outcome.output)]

/-- Where a submission stands: the call that it makes next, with what the calls before it gave. -/
inductive Stage
  | findUser
  | findProblem
  | keep (language : Language)
  | readCases (language : Language) (submission : Id)
  | readLimits (language : Language) (submission : Id) (cases : List CaseRow)
  | dispatch (submission : Id) (job : Job)
  /-- Waits for the lock. -/
  | wait (judgement : NewJudgement) (result : JobResult)
  | findPrior (judgement : NewJudgement) (result : JobResult)
  | record (judgement : NewJudgement) (result : JobResult) (solved : Bool)
  | count (judgement : NewJudgement) (result : JobResult) (id : Id)
  | ended (answer : Except SubmitError Outcome)

/-- A number as a job holds it. -/
def narrow (n : Nat) : Except Fault Int32 :=
  if n < 2147483648 then .ok (Int32.ofNat n) else .error .tooLarge

/-- The job that a submission becomes. -/
def jobOf (request : Request) (language : Language) (cases : List CaseRow) (limits : Limits) :
    Except Fault Job := do
  let total ← narrow cases.length
  let timeLimit ← narrow limits.time
  let memoryLimit ← narrow limits.memory
  return {
    user := request.submission.user
    language
    source := request.submission.source
    inputs := cases.map (·.input)
    expected := cases.map (·.expected)
    timeLimit
    memoryLimit
    total }

/-- The judgement that the answer to a job becomes. Measurements below zero count as zero. -/
def judgementOf (request : Request) (submission : Id) (result : JobResult) : NewJudgement where
  user := request.user
  submission
  problem := request.problem
  verdict := result.verdict
  runtime := result.runtime.toInt.toNat
  memory := result.memory.toInt.toNat
  output := result.output.getD ""

/-- What the submitter gets back for a judgement. -/
def outcomeOf (judgement : NewJudgement) (result : JobResult) (id : Id) : Outcome where
  submission := judgement.submission
  judgement := id
  verdict := judgement.verdict
  passed := result.passed.toInt.toNat
  total := result.total.toInt.toNat
  runtime := judgement.runtime
  memory := judgement.memory
  output := judgement.output

namespace Stage

/-- The call of the store that is made next, if one is. -/
def call? : Stage → Option Call
  | findUser => some .userExists
  | findProblem => some .problemExists
  | keep _ => some .saveSubmission
  | readCases _ _ => some .testCases
  | readLimits _ _ _ => some .limits
  | findPrior _ _ => some .findPriorAccepted
  | record _ _ _ => some .saveJudgement
  | count _ _ _ => some .incrementSolvedCount
  | dispatch _ _ | wait _ _ | ended _ => none

/-- The job that is dispatched next, if one is. -/
def job? : Stage → Option Job
  | dispatch _ job => some job
  | _ => none

/-- Whether the lock is held. -/
def holdsLock : Stage → Bool
  | findPrior _ _ | record _ _ _ | count _ _ _ => true
  | _ => false

/-- Whether the lock is taken next. -/
def takesLock : Stage → Bool
  | wait _ _ => true
  | _ => false

/-- The answer, if there is one. -/
def answer? : Stage → Option (Except SubmitError Outcome)
  | ended answer => some answer
  | _ => none

/-- The end by a fault. -/
def fail (fault : Fault) : Stage := .ended (.error (.system fault))

/-- The stage after a successful call of the store that changes nothing. -/
def afterRead (request : Request) (database : Database) : Stage → Except Fault Stage
  | findUser =>
    return if ← database.query fun tables => return tables.userExists request.user then .findProblem
      else .ended (.error (.userNotFound request.user))
  | findProblem =>
    return if ← database.query fun tables => return tables.problemExists request.problem then
      match Language.parse? request.submission.language with
      | some language => .keep language
      | none => .ended (.error (.unsupportedLanguage request.submission.language))
    else .ended (.error (.problemNotFound request.problem))
  | readCases language submission =>
    return .readLimits language submission
      (← database.query fun tables => return tables.casesOf request.problem)
  | readLimits language submission cases => do
    let limits ← database.query (·.limits request.problem)
    return .dispatch submission (← jobOf request language cases limits)
  | findPrior judgement result =>
    return .record judgement result
      (← database.query fun tables => return tables.priorAccepted judgement.user judgement.problem)
  | stage => return stage

/-- The stage after a call of the store, and the store; a call that fails changes nothing. -/
def afterCall (request : Request) (database : Database) : Stage → Except Fault (Stage × Database)
  | keep language => do
    let (id, database) ← database.change (·.saveSubmission {
      user := request.user
      problem := request.problem
      language
      source := request.submission.source
      submitted := request.time })
    return (.readCases language id, database)
  | record judgement result solved => do
    let (id, database) ← database.change (·.saveJudgement judgement)
    return if judgement.verdict = .accepted && !solved then (.count judgement result id, database)
      else (.ended (.ok (outcomeOf judgement result id)), database)
  | count judgement result id => do
    let ((), database) ← database.change fun tables => .ok ((), tables.incrementSolved judgement.user)
    return (.ended (.ok (outcomeOf judgement result id)), database)
  | stage => return (← stage.afterRead request database, database)

/-- One step of a submission: a call of the store, which may fail with `fault` instead of being made;
the dispatch, which `judged` answers; or the taking of the lock. -/
def step (request : Request) (fault : Option Fault) (judged : Except Fault JobResult)
    (database : Database) : Stage → Stage × Database
  | dispatch submission _ =>
    match judged with
    | .ok result => (.wait (judgementOf request submission result) result, database)
    | .error fault => (fail fault, database)
  | wait judgement result => (.findPrior judgement result, database)
  | ended answer => (.ended answer, database)
  | stage =>
    match fault with
    | some fault => (fail fault, database)
    | none =>
      match stage.afterCall request database with
      | .ok next => next
      | .error fault => (fail fault, database)

end Stage

end CodeJudge.Coordinator
