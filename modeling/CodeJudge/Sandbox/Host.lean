import CodeJudge.Bytes
import CodeJudge.Clock
import CodeJudge.Files.Fault
import CodeJudge.Process.Program

/-!
# Hosts

What compiling and running need of the machine they happen on: files that can be written and read,
programs that can be run with their output captured in a file, and the resident memory of the worker
itself. Each operation acts on a world `W` that is left open, so that what is said of compiling and
running holds on every host.
-/

namespace CodeJudge.Sandbox

open Process (Ending)

/-- A program to be run, and where it is run. -/
structure Launch where
  program : String
  arguments : List String
  directory : String
  /-- What the program finds on its standard input, through a pipe; none for an input that is closed
  to it. -/
  input : Option String
  /-- The file that takes both standard output and standard error. It is emptied first. -/
  output : String
  /-- The time after which the program and all that it has started are killed, if there is one. -/
  limit : Option Nanos
  deriving DecidableEq, Repr

/-- How a run came out. -/
inductive Run
  /-- The file for the output could not be made, and nothing was run. -/
  | noOutput (fault : FileFault)
  /-- The program could not be started. -/
  | notStarted (fault : FileFault)
  /-- The program ended after a time; whatever it had left running was killed. -/
  | ended (ending : Ending) (elapsed : Nanos)
  /-- The program was killed at the limit, or goes on without end. -/
  | unfinished
  deriving DecidableEq, Repr

/-- The operations of a host. -/
structure Host (W : Type) where
  /-- Writes a whole file. -/
  write : String → ByteArray → StateM W (Except FileFault Unit)
  /-- Reads a whole file. -/
  read : String → StateM W (Except FileFault ByteArray)
  run : Launch → StateM W Run
  /-- Makes a directory that was not there, below `root` and with a name that begins as asked. -/
  makeDirectory : (root start : String) → StateM W (Except FileFault String)
  /-- Removes a directory and all below it. -/
  removeDirectory : String → StateM W Unit
  /-- The resident memory of the worker, in KiB, if it can be told. -/
  resident : StateM W (Option Int)

/-- The first `limit` bytes of a file; none at all of a file that cannot be read. -/
def Host.head {W : Type} (host : Host W) (path : String) (limit : Nat) : StateM W Bytes := do
  match ← host.read path with
  | .ok content => return (content.extract 0 limit).data.toList
  | .error _ => return []

/-- Something that can be run on cases. -/
structure Artifact where
  /-- The directory of the job. -/
  directory : String
  command : List String
  deriving DecidableEq, Repr

end CodeJudge.Sandbox
