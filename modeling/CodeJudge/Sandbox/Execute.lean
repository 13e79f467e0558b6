import CodeJudge.Files.Path
import CodeJudge.Process.Program
import CodeJudge.Sandbox.Case
import CodeJudge.Sandbox.Host
import CodeJudge.Sandbox.Memory
import CodeJudge.Text.Utf8

/-!
# Running cases

An artifact is run once for every case: the input of the case on its standard input, both of its
outputs in one file of the job's directory. Only the head of that file is read back.
-/

namespace CodeJudge.Sandbox

/-- Why a program could not be run on a case. -/
inductive RunFault
  /-- The command is empty. -/
  | noProgram
  | noOutput (path : String) (fault : FileFault)
  | notStarted (program : String) (fault : FileFault)
  deriving DecidableEq, Repr

/-- What is said of a program that could not be run. -/
def RunFault.message : RunFault → String
  | noProgram => "Empty run command"
  | noOutput path fault => "failed to create " ++ path ++ ": " ++ fault.message
  | notStarted program fault => "failed to start " ++ program ++ ": " ++ fault.message

/-- The file that takes the output of a case. -/
def outputPath (directory : String) (index : Nat) : String :=
  Path.join directory (Process.number index ++ ".out")

/-- Runs a command on an input. The answer tells whether it exited well, and after what time; it is
none for a command that goes on past the limit, or without end. -/
def runProgram {W : Type} (host : Host W) (artifact : Artifact) (input output : String)
    (limit : Option Nanos) : StateM W (Option (Except RunFault Bool × Nanos)) := do
  match artifact.command with
  | [] => return some (.error .noProgram, 0)
  | program :: arguments =>
    let launch : Launch :=
      { program, arguments
        directory := artifact.directory
        input := some input
        output
        limit }
    match ← host.run launch with
    | .noOutput fault => return some (.error (.noOutput output fault), 0)
    | .notStarted fault => return some (.error (.notStarted program fault), 0)
    | .ended ending elapsed => return some (.ok ending.succeeded, elapsed)
    | .unfinished => return none

/-- Runs an artifact on a case, and reports on it; none for a program that goes on past the limit, or
without end. -/
def execute {W : Type} (host : Host W) (artifact : Artifact) (case : Case) (memoryLimit : Nat)
    (limit : Option Nanos) : StateM W (Option Report) := do
  let path := outputPath artifact.directory case.index
  let before ← host.resident
  match ← runProgram host artifact case.input path limit with
  | none => return none
  | some (ending, elapsed) =>
    let after ← host.resident
    let expected := Utf8.encode case.expected
    let output ← host.head path (headLength expected)
    let observed : Observation :=
      { ending := ending.mapError RunFault.message
        elapsed
        memory := Memory.growth before after
        output }
    return some (observed.report memoryLimit expected)

end CodeJudge.Sandbox
