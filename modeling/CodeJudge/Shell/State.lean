import CodeJudge.Shell.Command
import CodeJudge.Shell.Pattern
import CodeJudge.Shell.Tool.Table

/-!
# What a shell keeps

The state of a running shell, and how the pieces of a word, once each has a value, become fields:
values that were not quoted are split at blanks and looked up as patterns among the files.
-/

namespace CodeJudge.Shell

open Process (Pid Action)

/-- The state of a shell. -/
structure State where
  here : List String
  /-- The name of the script, or of the shell. -/
  name : Octets
  arguments : List Octets := []
  bindings : List (Octets × Octets) := []
  functions : List (Octets × Command) := []
  status : Nat := 0
  /-- The status of the last script whose output was put into the command at hand. -/
  substituted : Nat := 0
  /-- The variables that programs are given. -/
  exported : List Octets := []
  /-- The variables that cannot be set. -/
  constants : List Octets := []
  /-- The variables of the function at hand that are its own, with the values to be put back. -/
  locals : List (Octets × Option Octets) := []
  /-- Whether a function is being carried out. -/
  inFunction : Bool := false
  /-- The command that is named with a complaint. -/
  speaker : Option String := none
  /-- The number of the shell's own process. -/
  pid : Pid := 0
  /-- The process that was last put into the background. -/
  last : Option Pid := none
  /-- The processes in the background that were not waited for. -/
  jobs : List Pid := []
  /-- What to do on signals; zero stands for the exit. -/
  traps : List (Nat × Octets) := []
  /-- Whether a command that fails ends the shell. -/
  careful : Bool := false
  /-- Whether a variable that is not set ends the shell. -/
  strict : Bool := false
  /-- Whether commands are shown before they are carried out. -/
  traced : Bool := false
  /-- Whether patterns stand for themselves and not for the names of files. -/
  patternless : Bool := false
  /-- Whether commands are read but not carried out. -/
  idle : Bool := false
  /-- Whether files are kept from being written over. -/
  keeping : Bool := false
  line : Nat := 1
  /-- How many loops are around the command at hand. -/
  loops : Nat := 0

/-- How a command leaves the one around it. -/
inductive Flow
  | normal
  | leaveLoop (depth : Nat)
  | nextRound (depth : Nat)
  | leaveFunction
  | leaveShell
  deriving DecidableEq, Repr

namespace State

/-- The value of a variable; the empty text if it has none. -/
def value (state : State) (name : Octets) : Octets := (state.bindings.lookup name).getD []

/-- Sets a variable. -/
def set (state : State) (name value : Octets) : State :=
  { state with bindings := (name, value) :: state.bindings.filter (·.1 != name) }

/-- Sets a variable, unless it must not change. A fault is its name. -/
def assign (state : State) (name value : Octets) : Except Octets State :=
  if state.constants.contains name then .error name else .ok (state.set name value)

/-- Puts back the value that a variable had, if it had one. -/
def restore (state : State) (entry : Octets × Option Octets) : State :=
  match entry.2 with
  | some value => state.set entry.1 value
  | none => { state with bindings := state.bindings.filter (·.1 != entry.1) }

/-- The state for something whose failure is looked at from outside. -/
def shielded (state : State) (tested : Bool) : State :=
  { state with careful := state.careful && !tested }

/-- The state after something that began in a shielded one. -/
def unshielded (state : State) (tested : Bool) (before : State) : State :=
  { state with careful := state.careful || (tested && before.careful) }

/-- Turns an option on or off by its letter. -/
def option? (state : State) (on : Bool) : Char → Option State
  | 'e' => some { state with careful := on }
  | 'u' => some { state with strict := on }
  | 'x' => some { state with traced := on }
  | 'f' => some { state with patternless := on }
  | 'n' => some { state with idle := on }
  | 'C' => some { state with keeping := on }
  | c => if ['v', 'a', 'm', 'b', 'I', 'i', 's', 'V', 'E'].contains c then some state
    else none

/-- The letters of options by their long names. -/
def optionNames : List (String × Char) :=
  [("errexit", 'e'), ("noglob", 'f'), ("ignoreeof", 'I'), ("interactive", 'i'), ("monitor", 'm'),
    ("noexec", 'n'), ("stdin", 's'), ("xtrace", 'x'), ("verbose", 'v'), ("noclobber", 'C'),
    ("allexport", 'a'), ("notify", 'b'), ("nounset", 'u')]

/-- Takes options from the front of arguments: the state with them, and the arguments left, none if
there are none at all. A fault is the option that is not known. -/
def options (state : State) : List Octets → Except Octets (State × Option (List Octets))
  | [] => .ok (state, none)
  | ['-', '-'] :: rest => .ok (state, some rest)
  | [sign, 'o'] :: name :: rest =>
    if sign = '-' || sign = '+' then
      match (optionNames.lookup name.toText).bind (state.option? (sign = '-')) with
      | some state => state.options rest
      | none => .error ([sign, 'o', ' '] ++ name)
    else .ok (state, some ([sign, 'o'] :: name :: rest))
  | (sign :: c :: letters) :: rest =>
    if sign = '-' || sign = '+' then do
      let state ← (c :: letters).foldlM (fun (state : State) letter =>
        match state.option? (sign = '-') letter with
        | some state => .ok state
        | none => .error [sign, letter]) state
      state.options rest
    else .ok (state, some ((sign :: c :: letters) :: rest))
  | rest => .ok (state, some rest)

/-- The characters that separate fields. -/
def separators (state : State) : Octets :=
  (state.bindings.lookup ['I', 'F', 'S']).getD [' ', '\t', '\n']

/-- The value of a parameter, none if it is not set. -/
def parameter? (state : State) (name : Octets) : Option Octets :=
  match name with
  | ['#'] => some (Octets.ofInt state.arguments.length)
  | ['?'] => some (Octets.ofInt state.status)
  | ['$'] => some (Octets.ofInt state.pid)
  | ['!'] => state.last.map fun (pid : Nat) => Octets.ofInt pid
  | ['-'] =>
    some ((if state.strict then ['u'] else []) ++ (if state.traced then ['x'] else [])
      ++ (if state.patternless then ['f'] else []) ++ if state.careful then ['e'] else [])
  | ['0'] => some state.name
  | ['@'] | ['*'] =>
    if state.arguments.isEmpty then none
    else
      let between : Octets := if name = ['*'] then state.separators.take 1 else [' ']
      some (List.intercalate between state.arguments)
  | _ =>
    match Decimal.readNat? name with
    | some n => state.arguments[n - 1]?
    | none => state.bindings.lookup name

/-- The variables that a program is given. -/
def environment (state : State) : List (Octets × Octets) :=
  state.bindings.filter fun entry => state.exported.contains entry.1

/-- Complains in the name of the shell. -/
def warn (state : State) (message : String) : Action Unit :=
  let speaker := match state.speaker with
    | some name => name ++ ": "
    | none => ""
  Tools.put 2 (state.name
    ++ Octets.ofText (": " ++ Process.number state.line ++ ": " ++ speaker ++ message ++ "\n"))

/-- What a tool that is part of the shell is started with. -/
def builtin (state : State) (name : String) (arguments : List Octets) : Start where
  here := state.here
  name := state.name.toText ++ ": " ++ Process.number state.line ++ ": " ++ name
  arguments := arguments
  inner := true
  bound := 1000000000

end State

/-- A part of a word after its value has been found. -/
inductive Fragment
  /-- Text; `split` tells whether it is cut at separators. -/
  | text (quoted split : Bool) (text : Octets)
  /-- The end of a field. -/
  | boundary
  /-- All arguments, when there are none. -/
  | nothing
  deriving DecidableEq, Repr

/-- A fragment of an operand, which is cut at separators wherever it is not quoted. -/
def Fragment.splittable (split : Bool) : Fragment → Fragment
  | .text quoted _ inside => .text quoted split inside
  | fragment => fragment

/-- Fields under construction. -/
structure Fields where
  /-- The complete fields, latest first. -/
  done : List Marked := []
  /-- The field at hand, latest character first. -/
  current : Option Marked := none

namespace Fields

/-- Ends the field at hand. -/
def close (fields : Fields) : Fields :=
  match fields.current with
  | some marked => { done := marked.reverse :: fields.done }
  | none => fields

/-- Adds a character. -/
def add (fields : Fields) (quoted : Bool) (c : Char) : Fields :=
  { fields with current := some ((c, quoted) :: fields.current.getD []) }

/-- Adds a fragment. -/
def fragment (separators : Octets) (fields : Fields) : Fragment → Fields
  | .text true _ text => text.foldl (·.add true ·) { fields with current := some (fields.current.getD []) }
  | .text false false text => text.foldl (·.add false ·) fields
  | .text false true text =>
    text.foldl (fun fields c =>
      if !separators.contains c then fields.add false c
      else if c = ' ' || c = '\t' || c = '\n' then fields.close
      else close { fields with current := some (fields.current.getD []) }) fields
  | .boundary => close { fields with current := some (fields.current.getD []) }
  | .nothing => fields

/-- The fields of fragments. -/
def ofFragments (separators : Octets) (fragments : List Fragment) : List Marked :=
  let fields := ((fragments.foldl (fragment separators) {}).close).done.reverse
  if fragments.contains .nothing && fields.all (·.isEmpty) then [] else fields

/-- The text of fragments that make one field. -/
def single (fragments : List Fragment) : Marked :=
  fragments.flatMap fun fragment => match fragment with
    | .text quoted _ text => text.map fun c => (c, quoted)
    | .boundary => [(' ', true)]
    | .nothing => []

/-- The names that a pattern stands for, or the pattern itself if there are none. -/
def paths (files : FileTree) (here : List String) (pattern : Marked) : List Octets :=
  if !Marked.isWild pattern then [Marked.text pattern]
  else
    let cut := (pattern.reverse.takeWhile (·.1 != '/')).length
    let front := Marked.text (pattern.take (pattern.length - cut))
    let last := pattern.drop (pattern.length - cut)
    let directory := match files.find here (if front.isEmpty then "." else front.toText) with
      | .ok (target, .directory) => some target
      | _ => none
    let names := ((directory.map files.list).getD []).map Octets.ofText
    let hidden := last.head?.map (·.1) == some '.'
    match names.filter fun name => (hidden || name.head? != some '.') && Marked.matchesText last name with
    | [] => [Marked.text pattern]
    | found => found.map (front ++ ·)

end Fields

end CodeJudge.Shell
