import CodeJudge.Files.Path
import CodeJudge.Sandbox.Host
import CodeJudge.Sandbox.Toolchain
import CodeJudge.Text.Cut
import CodeJudge.Text.Substitution
import CodeJudge.Text.Utf8

/-!
# Compiling

The source of a job is written into its directory, and the compile command of its language is run
over it. A compiler that fails, cannot be started or runs too long is the submitter's failure and
comes back with diagnostics; only a source that cannot be written is a fault of the worker.

The name of the source file comes from the configuration and is joined to the directory as a path.
-/

namespace CodeJudge.Sandbox

open Process (Ending)

/-- The name of the executable in the directory of a job. -/
def executableName : String := "main"
/-- The name of the file that takes what a compiler prints. -/
def diagnosticsName : String := "compile_stdout.txt"

/-- What compiling a source leads to. -/
inductive Compilation
  | success (artifact : Artifact)
  | failure (diagnostics : String)
  deriving DecidableEq, Repr

/-- The source could not be written. -/
structure SourceFault where
  path : String
  fault : FileFault
  deriving DecidableEq, Repr

/-- What is said when the source could not be written. -/
def SourceFault.message (fault : SourceFault) : String :=
  "failed to write source to " ++ fault.path ++ ": " ++ fault.fault.message

/-- Why a compile command failed. -/
inductive CompileFailure
  | exited (ending : Ending)
  | notStarted (program : String) (fault : FileFault)
  /-- There was no program to start. -/
  | noProgram
  | timedOut (timeout : Nanos)
  deriving DecidableEq, Repr

/-- What is said of a failure. -/
def CompileFailure.message : CompileFailure → String
  | exited ending => "Compiler exited with " ++ ending.message
  | notStarted program fault => "Failed to start " ++ program ++ ": " ++ fault.message
  | noProgram => "Failed to start : Empty compile command"
  | timedOut timeout => "Compilation timed out after " ++ Process.number timeout.seconds ++ "s"

/-- What the marks in a template stand for: the paths of the source and the executable, and the
directory. -/
def placeholders (directory fileName : String) : Substitution.Mapping :=
  [(inputMark, Path.join directory fileName),
    (outputMark, Path.join directory executableName),
    (directoryMark, directory)]

/-- Runs a compile command; none if it succeeded. -/
def runCompiler {W : Type} (host : Host W) (command : List String) (directory : String)
    (timeout : Nanos) : StateM W (Option CompileFailure) := do
  match command with
  | [] => return some .noProgram
  | program :: arguments =>
    let launch : Launch :=
      { program, arguments, directory
        input := none
        output := Path.join directory diagnosticsName
        limit := some timeout }
    match ← host.run launch with
    | .noOutput fault => return some (.notStarted program fault)
    | .notStarted fault => return some (.notStarted program fault)
    | .ended ending _ => return if ending.succeeded then none else some (.exited ending)
    | .unfinished => return some (.timedOut timeout)

/-- The diagnostics of a failure: the head of what the compiler printed, or the reason of the failure
if it printed nothing. -/
def diagnosticsOf (printed : Bytes) (failure : CompileFailure) : String :=
  let text := Utf8.lossy printed
  Cut.truncate (if text.isEmpty then failure.message else text)

/-- Compiles a source in a directory. -/
def compile {W : Type} (host : Host W) (toolchain : Toolchain) (directory source : String)
    (timeout : Nanos) : StateM W (Except SourceFault Compilation) := do
  let path := Path.join directory toolchain.fileName
  match ← host.write path (Utf8.encode source).toByteArray with
  | .error fault => return .error { path, fault }
  | .ok () =>
    let mapping := placeholders directory toolchain.fileName
    let artifact : Artifact := { directory, command := mapping.command toolchain.run }
    match toolchain.compile with
    | none => return .ok (.success artifact)
    | some template =>
      let failure ← runCompiler host (mapping.command template) directory timeout
      let printed ← host.head (Path.join directory diagnosticsName) Cut.limit
      match failure with
      | none => return .ok (.success artifact)
      | some failure => return .ok (.failure (diagnosticsOf printed failure))

end CodeJudge.Sandbox
