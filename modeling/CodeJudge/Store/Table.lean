import CodeJudge.Language
import CodeJudge.Store.Fault
import CodeJudge.Verdict

/-!
# The tables

What the coordinator keeps: users, problems, the cases of problems, submissions and judgements. Rows
of the last three are numbered by the store. A number is never given twice, also when the row that had
it is gone; a statement that fails gives none.

Every operation either gives the tables that it leaves or a fault, in which case the tables stay as
they were.
-/

namespace CodeJudge.Store

/-- The number of a row. -/
abbrev Id := Int

/-- A user, and how many problems the user has solved. -/
structure UserRow where
  id : Id
  name : String
  solved : Int := 0
  deriving DecidableEq, Repr

/-- A problem and its limits. -/
structure ProblemRow where
  id : Id
  name : String
  /-- In milliseconds. -/
  timeLimit : Nat
  /-- In KiB. -/
  memoryLimit : Nat
  deriving DecidableEq, Repr

/-- A case of a problem. -/
structure CaseRow where
  id : Id
  problem : Id
  input : String
  expected : String
  deriving DecidableEq, Repr

/-- A submission. -/
structure SubmissionRow where
  id : Id
  user : Id
  problem : Id
  /-- The name of the language. -/
  language : String
  source : String
  /-- A timestamp. -/
  submitted : String
  deriving DecidableEq, Repr

/-- A judgement of a submission. The user and the problem of the submission stand here again. -/
structure JudgementRow where
  id : Id
  user : Id
  submission : Id
  problem : Id
  /-- The code of the verdict. -/
  verdict : Int
  /-- In milliseconds. -/
  runtime : Nat
  /-- In KiB. -/
  memory : Nat
  output : String
  deriving DecidableEq, Repr

/-- All tables. Rows stand in the order in which they were added. -/
structure Tables where
  users : List UserRow := []
  problems : List ProblemRow := []
  cases : List CaseRow := []
  submissions : List SubmissionRow := []
  judgements : List JudgementRow := []
  /-- The last number given to a case. -/
  lastCase : Id := 0
  /-- The last number given to a submission. -/
  lastSubmission : Id := 0
  /-- The last number given to a judgement. -/
  lastJudgement : Id := 0
  deriving DecidableEq, Repr

/-- A submission that has no number yet. -/
structure NewSubmission where
  user : Id
  problem : Id
  language : Language
  source : String
  submitted : String
  deriving DecidableEq, Repr

/-- A judgement that has no number yet. -/
structure NewJudgement where
  user : Id
  submission : Id
  problem : Id
  verdict : Verdict
  runtime : Nat
  memory : Nat
  output : String
  deriving DecidableEq, Repr

/-- The limits of a problem. -/
structure Limits where
  /-- In milliseconds. -/
  time : Nat
  /-- In KiB. -/
  memory : Nat
  deriving DecidableEq, Repr

namespace Tables

/-- The user of a number. -/
def user? (tables : Tables) (id : Id) : Option UserRow := tables.users.find? (·.id == id)

/-- The problem of a number. -/
def problem? (tables : Tables) (id : Id) : Option ProblemRow := tables.problems.find? (·.id == id)

/-- Whether there is a user of a number. -/
def userExists (tables : Tables) (id : Id) : Bool := tables.users.any (·.id == id)

/-- Whether there is a problem of a number. -/
def problemExists (tables : Tables) (id : Id) : Bool := tables.problems.any (·.id == id)

/-- How many problems a user has solved. -/
def solvedCount (tables : Tables) (id : Id) : Except Fault Int :=
  match tables.user? id with
  | some user => .ok user.solved
  | none => .error (.database .noRow)

/-- The cases of a problem, in the order of their numbers. -/
def casesOf (tables : Tables) (problem : Id) : List CaseRow :=
  tables.cases.filter (·.problem == problem)

/-- The limits of a problem. -/
def limits (tables : Tables) (problem : Id) : Except Fault Limits :=
  match tables.problem? problem with
  | some row => .ok ⟨row.timeLimit, row.memoryLimit⟩
  | none => .error (.database .noRow)

/-- Whether some judgement accepts a user's program for a problem. -/
def priorAccepted (tables : Tables) (user problem : Id) : Bool :=
  tables.judgements.any fun row =>
    row.user == user && row.problem == problem && row.verdict == Verdict.accepted.code

/-- Adds one to the number of problems that a user has solved, if there is such a user. -/
def incrementSolved (tables : Tables) (id : Id) : Tables :=
  { tables with
    users := tables.users.map fun user =>
      if user.id = id then { user with solved := user.solved + 1 } else user }

/-- Adds a submission, and gives its number. Its user and its problem have to be there. -/
def saveSubmission (tables : Tables) (submission : NewSubmission) : Except Fault (Id × Tables) :=
  if tables.userExists submission.user && tables.problemExists submission.problem then
    let id := tables.lastSubmission + 1
    .ok (id, { tables with
      submissions := tables.submissions ++ [{
        id
        user := submission.user
        problem := submission.problem
        language := submission.language.name
        source := submission.source
        submitted := submission.submitted }]
      lastSubmission := id })
  else .error (.database (.violated .reference))

/-- Adds a judgement, and gives its number. Its submission has to be there and not to be judged. -/
def saveJudgement (tables : Tables) (judgement : NewJudgement) : Except Fault (Id × Tables) :=
  if tables.judgements.any (·.submission == judgement.submission) then
    .error (.database (.violated (.unique "judgements.submission_id")))
  else if tables.submissions.any (·.id == judgement.submission) then
    let id := tables.lastJudgement + 1
    .ok (id, { tables with
      judgements := tables.judgements ++ [{
        id
        user := judgement.user
        submission := judgement.submission
        problem := judgement.problem
        verdict := judgement.verdict.code
        runtime := judgement.runtime
        memory := judgement.memory
        output := judgement.output }]
      lastJudgement := id })
  else .error (.database (.violated .reference))

/-- The users in the order of their numbers. -/
def usersById (tables : Tables) : List UserRow :=
  tables.users.mergeSort fun a b => decide (a.id ≤ b.id)

/-- The problems in the order of their numbers. -/
def problemsById (tables : Tables) : List ProblemRow :=
  tables.problems.mergeSort fun a b => decide (a.id ≤ b.id)

end Tables

end CodeJudge.Store
