import CodeJudge.Process.Machine
import CodeJudge.Sandbox.Host
import CodeJudge.Shell.Interpreter

/-!
# A host of files and shell commands

A host that is a value: its world is a file tree, and its programs are the shell, its tools and the
scripts among the files. Every run is a machine of its own, with a clock that starts at zero. When
the program of the run has ended, or its time is over, whatever else it has started ends with it.

Resident memory cannot be told on this host.
-/

namespace CodeJudge.Shell

open Process (Machine Program Action Descriptors Handle)
open Sandbox (Launch Run Host)

/-- The most system calls that one run makes. A run that makes more goes on without end. -/
def patience : Nat := 2000000

/-- The program that writes a text into the pipe at descriptor one. -/
def feeder (input : String) : Program :=
  Action.program (do
    Tools.put 1 (Octets.ofText input)
    return 0)

/-- The file where a run happens, and its program. -/
def prepare (files : FileTree) (launch : Launch) :
    Except FileFault Program := do
  match ← files.find [] launch.directory with
  | (_, .file _) => throw .notADirectory
  | (here, .directory) =>
    return Action.program (← actionOf files here (launch.program :: launch.arguments))

/-- Runs a program over files, and gives the files that it leaves. -/
def runOver (files : FileTree) (launch : Launch) : Run × FileTree :=
  match files.openForWriting [] launch.output true with
  | .error fault => (.noOutput fault, files)
  | .ok (files, content) =>
    match prepare files launch with
    | .error fault => (.notStarted fault, files)
    | .ok program =>
      let (output, machine) := ({ files } : Machine).addOpened { content }
      let outputs : Descriptors := [(1, .file output), (2, .file output)]
      let (watched, machine) : List Process.Pid × Machine :=
        match launch.input with
        | none =>
          let (leader, machine) := machine.start program ((0, .null) :: outputs)
          ([leader], machine)
        | some input =>
          let (pipe, machine) := machine.addPipe
          let (leader, machine) := machine.start program ((0, .reader pipe) :: outputs)
          let (feeding, machine) := machine.start (feeder input) [(1, .writer pipe)]
          ([leader, feeding], machine)
      let isOver (machine : Machine) : Bool :=
        machine.processes.all fun process => !watched.contains process.pid
      match machine.run isOver launch.limit patience with
      | (.reached, machine) =>
        match watched.head?.bind machine.ending? with
        | some ending => (.ended ending machine.clock, machine.files)
        | none => (.unfinished, machine.files)
      | (_, machine) => (.unfinished, machine.files)

/-- The first of so many names with this beginning that is not taken in a directory. -/
def freshName (files : FileTree) (here : List String) (start : String) : Nat → String
  | 0 => start
  | count + 1 =>
    let name := start ++ Process.number count
    if (files.node? (here ++ [name])).isNone then name else freshName files here start count

/-- Makes a directory with a fresh name. -/
def makeFresh (files : FileTree) (root start : String) : Except FileFault (String × FileTree) := do
  let (here, _) ← files.resolve [] root
  let path := Path.join root (freshName files here start (files.nodes.length + 1))
  return (path, ← files.makeDirectory [] path)

/-- Removes a directory and all below it. -/
def removeBelow (files : FileTree) (path : String) : FileTree :=
  match files.find [] path with
  | .ok (target, _) => files.removeAll target
  | .error _ => files

/-- The host whose world is a file tree. -/
def host : Host FileTree where
  write path bytes files :=
    match files.write [] path bytes with
    | .ok files => (.ok (), files)
    | .error fault => (.error fault, files)
  read path files := ((files.read [] path).map (·.bytes), files)
  run launch files := runOver files launch
  makeDirectory root start files :=
    match makeFresh files root start with
    | .ok (path, files) => (.ok path, files)
    | .error fault => (.error fault, files)
  removeDirectory path files := ((), removeBelow files path)
  resident := pure none

end CodeJudge.Shell
