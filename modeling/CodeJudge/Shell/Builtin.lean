import CodeJudge.Shell.Child
import CodeJudge.Shell.Parser
import CodeJudge.Shell.Search

/-!
# Commands of the shell's own

Commands that a shell carries out in its own process, since they look at its state or change it. Each
takes the state and its arguments, and answers the state after it and how the command around it is
left. Those that carry out further commands (`eval`, `.`, `exec`, `command`) belong to the
interpreter.
-/

namespace CodeJudge.Shell

open Process (Pid Action)

/-- The commands that end the shell when their redirections fail. -/
def special : List String :=
  [":", ".", "break", "continue", "eval", "exec", "exit", "export", "readonly", "return", "set",
    "shift", "trap", "unset"]

/-- The tools that the shell carries out itself. -/
def inner : List String := ["true", "false", "printf", "test", "[", "kill"]

/-- The commands that the shell carries out itself, apart from those that it does not let a function
stand for. -/
def ordinary : List String :=
  ["alias", "bg", "cd", "chdir", "command", "echo", "false", "fc", "fg", "getopts", "hash", "jobs",
    "kill", "local", "printf", "pwd", "read", "test", "[", "true", "type", "ulimit", "umask", "unalias",
    "wait"]

/-- The variables that a shell sets when it starts. -/
def preset (here : List String) : List (Octets × Octets) :=
  [(['I', 'F', 'S'], [' ', '\t', '\n']), (['O', 'P', 'T', 'I', 'N', 'D'], ['1']),
    (['P', 'S', '1'], ['$', ' ']), (['P', 'S', '2'], ['>', ' ']), (['P', 'S', '4'], ['+', ' ']),
    (['P', 'P', 'I', 'D'], ['1']), (['P', 'W', 'D'], Octets.ofText (Path.ofSegments here))]

/-- What a name stands for, as it is told: a word for its kind and the place of the program. -/
def describe (state : State) (name : Octets) : Option (String × Octets) := do
  let files : Option Octets :=
    let text := name.toText
    if (Tools.tool? text).isSome || shells.contains text || launchers.contains text then
      some ("/usr/bin/".toList ++ name)
    else none
  if Parser.reserved.contains name.toText then return (" is a shell keyword", name)
  else if (state.functions.lookup name).isSome then return (" is a shell function", name)
  else if special.contains name.toText then return (" is a special shell builtin", name)
  else if ordinary.contains name.toText then return (" is a shell builtin", name)
  else
    let path ← files
    return (" is " ++ path.toText, path)

/-- The number that a command of the shell is given, or the text that is none. -/
def numberOf (usual : Nat) : List Octets → Except Octets Nat
  | [] => .ok usual
  | text :: _ =>
    match Decimal.readNat? text with
    | some n => if text.all Char.isDigit && n < 2147483648 then .ok n else .error text
    | none => .error text

/-- The line that `read` takes: up to the end of the line or of the input. The last part tells
whether the line had an end. -/
def readLine (raw : Bool) (held : Marked) : Nat → Action (Marked × Bool)
  | 0 => pure (held.reverse, false)
  | bound + 1 => do
    match ← Action.read 0 1 with
    | none => return (held.reverse, false)
    | some bytes =>
      match Octets.ofArray bytes with
      | [] => return (held.reverse, false)
      | c :: _ =>
        if c = '\n' then return (held.reverse, true)
        else if c = '\\' && !raw then
          match ← Action.read 0 1 with
          | none => return (held.reverse, false)
          | some next =>
            match Octets.ofArray next with
            | [] => return (held.reverse, false)
            | '\n' :: _ => readLine raw held bound
            | e :: _ => readLine raw ((e, true) :: held) bound
        else readLine raw (if c = '\x00' then held else (c, false) :: held) bound

/-- Gives the fields of a line to names; the last name takes all that is left. -/
def assignFields (state : State) (line : Marked) : List Octets → Except Octets State
  | [] => .ok state
  | [name] =>
    let isBlank (entry : Char × Bool) : Bool :=
      !entry.2 && state.separators.contains entry.1
        && (entry.1 = ' ' || entry.1 = '\t' || entry.1 = '\n')
    let trimmed := (line.dropWhile isBlank).reverse.dropWhile isBlank |>.reverse
    state.assign name (Marked.text trimmed)
  | name :: rest => do
    let isSeparator (entry : Char × Bool) : Bool := !entry.2 && state.separators.contains entry.1
    let isBlank (entry : Char × Bool) : Bool :=
      isSeparator entry && (entry.1 = ' ' || entry.1 = '\t' || entry.1 = '\n')
    let line := line.dropWhile isBlank
    let field := line.takeWhile (!isSeparator ·)
    let after := (line.drop field.length).dropWhile isBlank
    let after := match after with
      | entry :: others =>
        if isSeparator entry && (line.drop field.length).length = after.length then others else after
      | [] => []
    assignFields (← state.assign name (Marked.text field)) after rest

/-- Sets variables that programs are to be given, or that cannot be set again. A fault is the name of a
variable that must not change. -/
def declare (state : State) (constant : Bool) : List Octets → Except Octets State
  | [] => .ok state
  | argument :: rest => do
    let name := argument.takeWhile (· != '=')
    let state ← match argument.dropWhile (· != '=') with
      | '=' :: value => state.assign name value
      | _ => pure state
    declare (if constant then { state with constants := name :: state.constants }
      else { state with exported := name :: state.exported }) constant rest

/-- Makes variables the function's own. A fault is the name of one that must not change. -/
def makeLocal (state : State) : List Octets → Except Octets State
  | [] => .ok state
  | argument :: rest => do
    let name := argument.takeWhile (· != '=')
    let state := { state with locals := (name, state.bindings.lookup name) :: state.locals }
    let state ← match argument.dropWhile (· != '=') with
      | '=' :: value => state.assign name value
      | _ => pure state
    makeLocal state rest

/-- The number of a signal that something is to be done on; zero stands for the exit. -/
def trapNumber? (text : Octets) : Option Nat :=
  if text.map Char.toUpper = ['E', 'X', 'I', 'T'] then some 0 else Tools.signal? text

/-- The name of a signal that something is to be done on. -/
def trapName (number : Nat) : String :=
  if number = 0 then "EXIT" else (Process.signalNames.lookup number).getD (Process.number number)

/-- A text as it can be written in a script: in single quotes, and each single quote in it in double
quotes of its own. -/
def quotation (text : Octets) : Octets :=
  let parts := text.splitOn '\''
  let parts := parts.zipIdx.map fun (part, i) =>
    if part.isEmpty && i > 0 then [] else '\'' :: part ++ ['\'']
  List.intercalate ['"', '\'', '"'] parts

/-- A command of the shell's own. -/
abbrev Builtin := State → List Octets → Action (State × Flow)

namespace Builtin

/-- Answers a status. -/
def answer (state : State) (status : Nat) : State × Flow := ({ state with status }, .normal)

/-- Complains in the name of a command. -/
def say (state : State) (name message : String) : Action Unit :=
  State.warn { state with speaker := some name } message

/-- Complains in the name of a command, and leaves the shell. -/
def fail (state : State) (name message : String) : Action (State × Flow) := do
  say state name message
  return ({ state with status := 2 }, .leaveShell)

/-- Leaves the shell because of an argument that should be a number. -/
def refuse (state : State) (name : String) (text : Octets) : Action (State × Flow) :=
  fail state name ("Illegal number: " ++ text.toText)

/-- Leaves the shell because of a variable that must not change. -/
def failConstant (state : State) (name : String) (text : Octets) : Action (State × Flow) :=
  fail state name (text.toText ++ ": is read only")

/-- The first argument that does not begin with the name of a variable. -/
def badName? (arguments : List Octets) : Option Octets :=
  (arguments.map (·.takeWhile (· != '='))).find? fun text =>
    !Parser.isName text && text.head? != some '-'

/-- Writes its arguments. -/
def echo : Builtin := fun state arguments => do
  let text := Format.echo arguments
  if text.isEmpty then return answer state 0
  else if ← Action.write 1 text.toArray then return answer state 0
  else
    say state "echo" "echo: I/O error"
    return answer state 1

/-- Goes to another directory. -/
def cd : Builtin := fun state arguments => do
  let back := arguments.head? = some ['-']
  let target := if back then state.value ['O', 'L', 'D', 'P', 'W', 'D']
    else arguments.headD (state.value ['H', 'O', 'M', 'E'])
  let files ← Action.look
  if target.isEmpty then return answer state 0 else
  match files.find state.here target.toText with
  | .ok (here, .directory) =>
    let state := state.set ['O', 'L', 'D', 'P', 'W', 'D'] (Octets.ofText (Path.ofSegments state.here))
    let place := Octets.ofText (Path.ofSegments here)
    if back then Tools.put 1 (place ++ ['\n'])
    return ({ state.set ['P', 'W', 'D'] place with here, status := 0 }, .normal)
  | _ =>
    say state "cd" ("can't cd to " ++ target.toText)
    return answer state 2

/-- Leaves the shell or the function at hand with a status. -/
def leave (name : String) (flow : Flow) : Builtin := fun state arguments =>
  match numberOf state.status arguments with
  | .ok status => return ({ state with status }, flow)
  | .error text => refuse state name text

/-- Leaves loops, or goes on with their next round. -/
def loops (name : String) (flow : Nat → Flow) : Builtin := fun state arguments =>
  match numberOf 1 arguments with
  | .ok 0 => refuse state name ['0']
  | .ok depth => return ({ state with status := 0 }, if state.loops = 0 then .normal else flow depth)
  | .error text => refuse state name text

/-- The commands that mark variables as they are, in the order of their names. -/
def marked (state : State) (name : String) (names : List Octets) : Octets :=
  let names := names.eraseDups.mergeSort fun a b => a.toText ≤ b.toText
  names.flatMap fun text =>
    Octets.ofText name ++ ' ' :: text ++ (match state.bindings.lookup text with
      | some value => '=' :: quotation value
      | none => []) ++ ['\n']

/-- Marks variables, and sets them. -/
def mark (name : String) (constant : Bool) : Builtin := fun state arguments => do
  match badName? arguments with
  | some text => fail state name (text.toText ++ ": bad variable name")
  | none =>
    if arguments.isEmpty || arguments = [['-', 'p']] then
      Tools.put 1 (marked state name (if constant then state.constants else state.exported))
      return answer state 0
    else
      match declare state constant arguments with
      | .ok state => return answer state 0
      | .error text => failConstant state name text

/-- Makes variables the function's own. -/
def localize : Builtin := fun state arguments => do
  if state.inFunction then
    match makeLocal state arguments with
    | .ok state => return answer state 0
    | .error text => failConstant state "local" text
  else fail state "local" "not in a function"

/-- Takes values from variables, or functions from their names. -/
def unset : Builtin := fun state arguments => do
  match badName? arguments, arguments with
  | some text, _ => fail state "unset" (text.toText ++ ": bad variable name")
  | none, ['-', 'f'] :: names =>
    let functions := state.functions.filter fun entry => !names.contains entry.1
    return answer { state with functions } 0
  | none, names =>
    match names.find? state.constants.contains with
    | some text => failConstant state "unset" text
    | none =>
      let bindings := state.bindings.filter fun entry => !names.contains entry.1
      return answer { state with bindings } 0

/-- Sets options and arguments. -/
def set : Builtin := fun state arguments =>
  match state.options arguments with
  | .ok (state, none) => return answer state 0
  | .ok (state, some arguments) => return answer { state with arguments } 0
  | .error option => fail state "set" ("Illegal option " ++ option.toText)

/-- Takes arguments away from the front. -/
def shift : Builtin := fun state arguments =>
  match numberOf 1 arguments with
  | .error text => refuse state "shift" text
  | .ok count =>
    if count ≤ state.arguments.length then
      return answer { state with arguments := state.arguments.drop count } 0
    else fail state "shift" "can't shift that many"

/-- Reads a line into variables. -/
def read : Builtin := fun state arguments => do
  let (raw, names) : Bool × List Octets := match arguments with
    | ['-', 'r'] :: names => (true, names)
    | names => (false, names)
  if names.isEmpty then
    say state "read" "arg count"
    return answer state 2
  else
    let (line, ended) ← readLine raw [] 1000000000
    match assignFields state line names with
    | .ok state => return answer state (if ended then 0 else 1)
    | .error text =>
      say state "read" (text.toText ++ ": is read only")
      return answer state 2

/-- Says what is to be done on signals. -/
def trap : Builtin := fun state arguments => do
  match arguments with
  | [] =>
    let traps := state.traps.mergeSort fun a b => a.1 ≤ b.1
    Tools.put 1 (traps.flatMap fun (number, action) =>
      Octets.ofText "trap -- " ++ quotation action ++ Octets.ofText (" " ++ trapName number ++ "\n"))
    return answer state 0
  | action :: names =>
    let (action, names) : Octets × List Octets :=
      if names.isEmpty then (['-'], [action]) else (action, names)
    let known := names.takeWhile fun text => (trapNumber? text).isSome
    let numbers := known.filterMap trapNumber?
    let others := state.traps.filter fun entry => !numbers.contains entry.1
    let traps := if action = ['-'] then others else numbers.map (·, action) ++ others
    Action.hold (traps.map (·.1))
    match names.drop known.length with
    | [] => return answer { state with traps } 0
    | text :: _ =>
      Tools.put 2 (Octets.ofText "trap: " ++ text ++ Octets.ofText ": bad trap\n")
      return answer { state with traps } 1

/-- Waits for processes in the background; the status is that of the last one named. -/
def waitFor (jobs : List Pid) (named : Bool) (status : Nat) : List Pid → Action Nat
  | [] => pure status
  | target :: rest => do
    if !jobs.contains target then waitFor jobs named 127 rest
    else if named then waitFor jobs named (← Shell.await target) rest
    else
      let _ ← Action.wait target
      waitFor jobs named 0 rest

/-- Waits for processes in the background. -/
def wait : Builtin := fun state arguments => do
  match arguments.find? (·.head? = some '%') with
  | some text =>
    say state "wait" ("No such job: " ++ text.toText)
    return answer state 2
  | none =>
    let targets : List Pid :=
      if arguments.isEmpty then state.jobs else arguments.filterMap Decimal.readNat?
    let status ← waitFor state.jobs (!arguments.isEmpty) 0 targets
    let jobs := state.jobs.filter fun job => !targets.contains job
    return answer { state with jobs } status

/-- Tells what names stand for. -/
def type (status : Nat) : Builtin := fun state arguments => do
  match arguments with
  | [] => return answer state status
  | text :: rest =>
    match describe state text with
    | some (kind, _) =>
      Tools.put 1 (text ++ Octets.ofText (kind ++ "\n"))
      type status state rest
    | none =>
      Tools.put 1 (text ++ Octets.ofText ": not found\n")
      type 127 state rest

/-- Writes a text, and is content. -/
def tell (text : State → Octets) : Builtin := fun state _ => do
  Tools.put 1 (text state)
  return answer state 0

/-- There are no jobs to be brought back. -/
def noJob (name : String) : Builtin := fun state _ => do
  say state name "No current job"
  return answer state 2

/-- The commands of the shell's own by name. -/
def table : List (String × Builtin) :=
  [(":", fun state _ => return answer state 0),
    ("echo", echo),
    ("pwd", tell fun state => Octets.ofText (Path.ofSegments state.here) ++ ['\n']),
    ("cd", cd),
    ("chdir", cd),
    ("exit", leave "exit" .leaveShell),
    ("return", leave "return" .leaveFunction),
    ("break", loops "break" .leaveLoop),
    ("continue", loops "continue" .nextRound),
    ("export", mark "export" false),
    ("readonly", mark "readonly" true),
    ("local", localize),
    ("unset", unset),
    ("set", set),
    ("shift", shift),
    ("read", read),
    ("trap", trap),
    ("wait", wait),
    ("type", type 0),
    ("fg", noJob "fg"),
    ("bg", noJob "bg"),
    ("umask", fun state arguments =>
      if arguments.isEmpty then tell (fun _ => Octets.ofText "0022\n") state [] else return answer state 0),
    ("ulimit", tell fun _ => []),
    ("alias", tell fun _ => []),
    ("unalias", tell fun _ => []),
    ("hash", tell fun _ => []),
    ("jobs", tell fun _ => [])]

/-- The command of a name, if the shell carries it out itself; some of them are tools as well. -/
def find? (name : String) : Option Builtin :=
  match table.lookup name with
  | some builtin => some builtin
  | none =>
    if !inner.contains name then none
    else (Tools.tool? name).map fun action => fun state arguments => do
      let status ← action (state.builtin name arguments)
      return answer state status

end Builtin

end CodeJudge.Shell
