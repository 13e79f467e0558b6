import CodeJudge.Process.Program
import CodeJudge.Shell.Octets

/-!
# Tools

The programs that scripts call: small filters and file tools, each a program of system calls. Here is
what they share. A tool gets the directory it runs in and its arguments. `bound` limits how often a
tool that could go on forever writes; it is larger than any run comes to.
-/

namespace CodeJudge.Shell

open Process (Action)

/-- What a tool is started with. -/
structure Start where
  here : List String
  /-- The name by which it was called. -/
  name : String
  arguments : List Octets
  /-- Whether the shell carries out the tool itself. -/
  inner : Bool := false
  /-- The processes that `kill` with zero reaches. -/
  bound : Nat

namespace Tools

/-- The bytes that one call reads or writes. -/
def block : Nat := 65536

/-- Writes octets. -/
def put (descriptor : Nat) (text : Octets) : Action Unit := do
  if text.isEmpty then pure () else
  let _ ← Action.write descriptor text.toArray
  pure ()

/-- Complains, and answers a status. -/
def complain (start : Start) (message : String) (status : Nat) : Action Nat := do
  put 2 (Octets.ofText (start.name ++ ": " ++ message ++ "\n"))
  return status

/-- Complains of how the tool was called, and answers a status. -/
def confuse (start : Start) (message : String) (status : Nat) : Action Nat :=
  complain start (message ++ "\nTry '" ++ start.name ++ " --help' for more information.") status

/-- The system's words for a fault, without its number. -/
def words (fault : FileFault) : String :=
  String.ofList (fault.message.toList.takeWhile (· != '(')).dropLast

/-- Reads everything behind a descriptor. -/
def readAll (descriptor : Nat) (held : ByteArray) : Nat → Action ByteArray
  | 0 => pure held
  | bound + 1 => do
    match ← Action.read descriptor block with
    | none => pure held
    | some bytes => if bytes.size = 0 then pure held else readAll descriptor (held ++ bytes) bound

/-- Writes everything that can be read behind a descriptor. -/
def copy (source target : Nat) : Nat → Action Unit
  | 0 => pure ()
  | bound + 1 => do
    match ← Action.read source block with
    | none => pure ()
    | some bytes =>
      if bytes.size = 0 then pure ()
      else if ← Action.write target bytes then copy source target bound
      else pure ()

/-- The descriptor that tools open files on. -/
def spare : Nat := 3

/-- Opens a file on the spare descriptor. -/
def openSpare (start : Start) (path : Octets) (mode : Process.Mode) :
    Action (Except FileFault Unit) := do
  match ← Action.openFile start.here path.toText mode with
  | .error fault => return .error fault
  | .ok handle =>
    let descriptors ← Action.descriptors
    Action.setDescriptors (descriptors.set spare handle)
    return .ok ()

/-- The content of a file, or of the standard input for a dash. -/
def contentOf (start : Start) (path : Octets) : Action (Except FileFault Octets) := do
  if path = ['-'] then return .ok (Octets.ofArray (← readAll 0 .empty start.bound))
  else
    match ← openSpare start path .read with
    | .error fault => return .error fault
    | .ok () => return .ok (Octets.ofArray (← readAll spare .empty start.bound))

/-- The contents of the files named, or of the standard input if none is named; a file that cannot be
read is complained of. -/
def contentsOf (start : Start) (shown : String → FileFault → String) (held : List (Octets × Octets))
    (status : Nat) : List Octets → Action (List (Octets × Octets) × Nat)
  | [] => return (held.reverse, status)
  | path :: rest => do
    match ← contentOf start path with
    | .ok text => contentsOf start shown ((path, text) :: held) status rest
    | .error fault =>
      let status ← complain start (shown path.toText fault) (max status 1)
      contentsOf start shown held status rest

/-- The standard input when no file is named. -/
def orInput (paths : List Octets) : List Octets := if paths.isEmpty then [['-']] else paths

/-- Splits arguments into the letters of options and the rest. -/
def options (held : Octets) : List Octets → Octets × List Octets
  | ['-', '-'] :: rest => (held, rest)
  | ('-' :: c :: letters) :: rest => options (held ++ c :: letters) rest
  | rest => (held, rest)

/-- The text of a path and a fault. -/
def plainly (path : String) (fault : FileFault) : String := path ++ ": " ++ words fault

/-- A path in quotation marks. -/
def quoted (path : Octets) : String := "'" ++ path.toText ++ "'"

end Tools

end CodeJudge.Shell
