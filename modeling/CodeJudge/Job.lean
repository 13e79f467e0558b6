import CodeJudge.Language

/-!
# Judging jobs

A job is what a coordinator asks a worker to judge: one program and the cases it has to pass. The
result is what the worker answers. Fields are words of the width that the wire gives them.
-/

namespace CodeJudge

/-- A program to be judged. The `i`-th case has the `i`-th input and the `i`-th expected output. -/
structure Job where
  user : Int64
  language : Language
  source : String
  inputs : List String
  expected : List String
  /-- For the whole job, in milliseconds. -/
  timeLimit : Int32
  /-- In KiB. -/
  memoryLimit : Int32
  /-- The number of cases. -/
  total : Int32
  deriving DecidableEq, Repr

/-- The answer to a job. -/
structure JobResult where
  user : Int64
  verdict : Verdict
  passed : Int32
  total : Int32
  /-- In KiB. -/
  memory : Int32
  /-- In milliseconds. -/
  runtime : Int32
  output : Option String
  deriving DecidableEq, Repr

namespace Job

/-- What can be wrong with the shape of a job. -/
inductive Fault
  /-- There is no case to judge. -/
  | noCases (total : Int32)
  /-- The lists of cases are not as long as they should be. -/
  | uneven (total inputs expected : Nat)
  /-- A limit is zero or below. -/
  | limits
  deriving DecidableEq, Repr

/-- A number in a message. -/
def number (n : Int) : String := String.ofList (Decimal.render n)

/-- What is said of a fault. -/
def Fault.message : Fault → String
  | .noCases total => "total_num must be at least 1, got " ++ number total.toInt
  | .uneven total inputs expected =>
    "expected " ++ number total ++ " inputs and outputs, got " ++ number inputs ++ " and "
      ++ number expected
  | .limits => "limits must be positive"

/-- Checks the shape of a job: at least one case, as many inputs and expected outputs as cases, and
limits above zero. The first fault in this order is given. -/
def validate (job : Job) : Except Fault Unit :=
  let total := job.total.toInt
  if total < 1 then .error (.noCases job.total)
  else if job.inputs.length ≠ total.toNat ∨ job.expected.length ≠ total.toNat then
    .error (.uneven total.toNat job.inputs.length job.expected.length)
  else if job.timeLimit.toInt ≤ 0 ∨ job.memoryLimit.toInt ≤ 0 then .error .limits
  else .ok ()

/-- The answer to a job of which nothing was judged. -/
def systemError (job : Job) (message : String) : JobResult where
  user := job.user
  verdict := .systemError
  passed := 0
  total := job.total
  memory := 0
  runtime := 0
  output := some message

end Job

end CodeJudge
