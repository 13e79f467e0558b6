import CodeJudge.Job
import CodeJudge.Resolver.Machine
import CodeJudge.Sandbox.Compile

/-!
# Judging a job

The worker's half of the pipeline: a directory is made for the job, its source is compiled there, its
cases race for the verdict, and the directory is removed. Whatever happens, the submitter gets an
answer: a job that is malformed and a fault of the worker come back as a system error.

What is done around the decisions is left to a `Bench`, so that what is said of the answers holds
whatever the operations do.
-/

namespace CodeJudge.Worker

open Sandbox (Artifact Case Compilation SourceFault Toolchain Toolchains)
open Resolver (Resolution)

/-- The operations that judging a job needs. -/
structure Bench (W : Type) where
  /-- Makes a directory for a job of a user. -/
  makeDirectory : Int64 → StateM W (Except FileFault String)
  /-- Compiles a source in a directory. -/
  compile : Toolchain → (directory source : String) → StateM W (Except SourceFault Compilation)
  /-- Runs an artifact on cases until there is a verdict, within a budget and a memory limit. -/
  resolve : Artifact → List Case → (budget : Nanos) → (memoryLimit : Nat) → StateM W Resolution
  /-- Removes the directory of a job. -/
  removeDirectory : String → StateM W Unit

/-- What can go wrong in the worker itself. -/
inductive Fault
  | noDirectory (fault : FileFault)
  | noSource (fault : SourceFault)
  deriving DecidableEq, Repr

/-- The cases of a job. -/
def casesOf (job : Job) : List Case :=
  (job.inputs.zip job.expected).mapIdx fun index (input, expected) => { index, input, expected }

/-- The largest number that an answer can hold. -/
def greatest : Nat := 2147483647

/-- A measurement as an answer holds it, capped. -/
def capped (n : Nat) : Int32 := Int32.ofNat (min n greatest)

/-- The answer to a job that was not compiled. -/
def notCompiled (job : Job) (diagnostics : String) : JobResult where
  user := job.user
  verdict := .compileError
  passed := 0
  total := job.total
  memory := 0
  runtime := 0
  output := some diagnostics

/-- The answer to a job whose verdict was resolved. An empty output is left out. -/
def resolved (job : Job) (resolution : Resolution) : JobResult where
  user := job.user
  verdict := resolution.verdict
  passed := Int32.ofNat resolution.passed
  total := Int32.ofNat resolution.total
  memory := capped resolution.memory
  runtime := capped resolution.runtime
  output := if resolution.output.isEmpty then none else some resolution.output

/-- Compiles and resolves a job in a directory. -/
def judgeIn {W : Type} (bench : Bench W) (toolchains : Toolchains) (job : Job) (directory : String) :
    StateM W (Except Fault JobResult) := do
  match ← bench.compile (toolchains.get job.language) directory job.source with
  | .error fault => return .error (.noSource fault)
  | .ok (.failure diagnostics) => return .ok (notCompiled job diagnostics)
  | .ok (.success artifact) =>
    let resolution ← bench.resolve artifact (casesOf job)
      (Nanos.ofMilliseconds job.timeLimit.toInt.toNat) job.memoryLimit.toInt.toNat
    return .ok (resolved job resolution)

/-- Judges a job in a directory of its own, which is removed however the judging ends. -/
def judge {W : Type} (bench : Bench W) (toolchains : Toolchains) (job : Job) :
    StateM W (Except Fault JobResult) := do
  match ← bench.makeDirectory job.user with
  | .error fault => return .error (.noDirectory fault)
  | .ok directory =>
    let answer ← judgeIn bench toolchains job directory
    bench.removeDirectory directory
    return answer

/-- What the submitter is told of a fault of the worker. -/
def internalError : String := "internal error"

/-- Answers a job. -/
def answer {W : Type} (bench : Bench W) (toolchains : Toolchains) (job : Job) :
    StateM W JobResult := do
  match job.validate with
  | .error fault => return job.systemError fault.message
  | .ok () =>
    match ← judge bench toolchains job with
    | .ok result => return result
    | .error _ => return job.systemError internalError

end CodeJudge.Worker
