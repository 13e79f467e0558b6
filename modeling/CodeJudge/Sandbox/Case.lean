import CodeJudge.Clock
import CodeJudge.Text.Cut
import CodeJudge.Text.Utf8

/-!
# Test cases and their outcomes

One case of a job, what is observed when the program has run on it, and how that is classified.

Only the head of a program's output is ever read. Its length is chosen so that the head decides the
comparison with the expected text as the whole output would: one byte past the expected length is
enough to tell that there is more.
-/

namespace CodeJudge.Sandbox

/-- One test case of a job. -/
structure Case where
  index : Nat
  input : String
  expected : String
  deriving DecidableEq, Repr

/-- How one case ended. -/
inductive Outcome
  | pass
  | wrongAnswer
  | runtimeError
  | memoryLimitExceeded
  deriving DecidableEq, Repr

/-- The outcome of one case, and what was measured while it ran. -/
structure Report where
  outcome : Outcome
  elapsed : Nanos
  /-- Growth of the worker's resident memory across the run, in KiB. -/
  memory : Int
  output : String
  deriving DecidableEq, Repr

/-- Decides the outcome of a case. A failed exit wins over the memory limit, which wins over the
comparison of the output, byte for byte. -/
def classify (exitedWell : Bool) (memory : Int) (memoryLimit : Nat) (output expected : Bytes) :
    Outcome :=
  if !exitedWell then .runtimeError
  else if memory > memoryLimit then .memoryLimitExceeded
  else if output ≠ expected then .wrongAnswer
  else .pass

/-- How much of a program's output is read when `expected` is expected of it. -/
def headLength (expected : Bytes) : Nat :=
  max (expected.length + 1) Cut.limit

/-- The text that is reported of captured output. -/
def captured (head : Bytes) : String :=
  Cut.truncate (Utf8.lossy head)

/-- What is known once a program has run on a case. -/
structure Observation where
  /-- Whether the program exited with success, or the reason why it could not be run to its end. -/
  ending : Except String Bool
  elapsed : Nanos
  memory : Int
  /-- The head of the captured output, empty when there is none. -/
  output : Bytes

/-- The report on a case. A program that could not be run has failed, and the reason stands in
place of its output. -/
def Observation.report (observed : Observation) (memoryLimit : Nat) (expected : Bytes) : Report where
  outcome :=
    classify (observed.ending.toOption.getD false) observed.memory memoryLimit observed.output expected
  elapsed := observed.elapsed
  memory := observed.memory
  output :=
    match observed.ending with
    | .ok _ => captured observed.output
    | .error reason => Cut.truncate reason

end CodeJudge.Sandbox
