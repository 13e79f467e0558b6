import CodeJudge.Process.Machine
import CodeJudge.Shell.State

/-!
# Finding programs

What the name of a program leads to: a tool, the shell itself, a program that starts another one, or a
file with commands.
-/

namespace CodeJudge.Shell

open Process (Action)

/-- The shell's words for a file that cannot be opened. -/
def openFault (path : Octets) (mode : Process.Mode) (fault : FileFault) : String :=
  let verb := if mode = .read then "cannot open " else "cannot create "
  let reason := match fault with
    | .notFound => if mode = .read then "No such file" else "Directory nonexistent"
    | _ => Tools.words fault
  verb ++ path.toText ++ ": " ++ reason

/-- The names by which the shell itself may be started. -/
def shells : List String := ["sh", "dash"]

/-- The last part of a path, if the path is one of a place where tools are kept. -/
def installed (path : String) : Option String :=
  match Path.segments path with
  | ["", "bin", name] | ["", "usr", "bin", name] => some name
  | _ => none

/-- The programs that start another one in their place. -/
def launchers : List String := ["env", "nice", "nohup", "setsid", "timeout"]

/-- What a launcher is asked for. -/
structure Errand where
  /-- The variables set for the program. -/
  set : List (Octets × Octets) := []
  /-- The time after which the program is ended. -/
  span : Option Nanos := none
  /-- The program and its arguments. -/
  command : List Octets

/-- Takes the arguments of a launcher apart; none if it cannot be called so. -/
def Errand.ofArguments? (name : String) (held : List (Octets × Octets)) : List Octets → Option Errand
  | [] => if name = "env" then some { set := held, command := [] } else none
  | word :: rest =>
    if name = "nice" && word = ['-', 'n'] then some { command := rest.tail }
    else if word.head? = some '-' then Errand.ofArguments? name held rest
    else if name = "env" && word.contains '=' then
      Errand.ofArguments? name
        ((word.takeWhile (· != '='), (word.dropWhile (· != '=')).tail) :: held) rest
    else if name = "timeout" then
      (Tools.span? word).map fun span => { span := some span, command := rest }
    else some { set := held, command := word :: rest }

/-- What a name of a program leads to. -/
inductive Found
  | tool (action : Start → Action Nat)
  /-- The shell itself. -/
  | shell
  | launcher
  /-- A file with commands for the shell. -/
  | script (path : String)
  | fault (fault : FileFault)

/-- Finds the program of a name: a name without a slash among the tools, a path among the files. -/
def find (files : FileTree) (here : List String) (name : String) : Found :=
  let byName (name : String) : Found :=
    if name = "." || name = ".." then .fault .permissionDenied
    else if shells.contains name then .shell
    else if launchers.contains name then .launcher
    else
      match Tools.tool? name with
      | some action => .tool action
      | none => .fault .notFound
  if !name.toList.contains '/' then byName name
  else
    match installed name with
    | some known => byName known
    | none =>
      if (Process.Machine.device? [] name).isSome then .fault .permissionDenied else
      match files.find here name with
      | .error fault => .fault fault
      | .ok (_, .directory) => .fault .permissionDenied
      | .ok (_, .file number) =>
        match files.content? number with
        | some content => if content.executable then .script name else .fault .permissionDenied
        | none => .fault .notFound

end CodeJudge.Shell
