import CodeJudge.Shell.Condition
import CodeJudge.Shell.Format
import CodeJudge.Shell.Tool

/-!
# Small tools

Conditions, formatted text, waiting, and signals.
-/

namespace CodeJudge.Shell

open Process (Action)

namespace Tools

/-- Answers a condition. -/
def test (start : Start) (words : List Octets) : Action Nat := do
  let files ← Action.look
  match Condition.evaluate ⟨files, start.here⟩ words with
  | .ok true => return 0
  | .ok false => return 1
  | .error message => complain start message 2

/-- Answers a condition that is written between brackets. -/
def bracket (start : Start) : Action Nat :=
  match start.arguments.reverse with
  | [']'] :: words => test start words.reverse
  | _ => complain start (if start.inner then "missing ]" else "missing ']'") 2

/-- Writes formatted text; what is wrong with it is told first. -/
def printf (start : Start) : Action Nat := do
  let arguments := match start.arguments with
    | ['-', '-'] :: rest => rest
    | arguments => arguments
  match arguments with
  | [] =>
    if start.inner then complain start "usage: printf format [arg ...]" 2
    else confuse start "missing operand" 1
  | format :: arguments =>
    let written := Format.printf format arguments
    for complaint in written.complaints do
      let _ ← complain start (complaint.message start.inner) 1
    put 1 written.text
    return if written.complaints.isEmpty then 0
      else if start.inner && written.complaints.any (·.isFinal) then 2 else 1

/-- A span written as a number of seconds, with a fraction and a unit. -/
def span? (text : Octets) : Option Nanos :=
  let whole := text.takeWhile Char.isDigit
  let rest := text.drop whole.length
  let (fraction, unit) : Octets × Octets := match rest with
    | '.' :: rest => (rest.takeWhile Char.isDigit, rest.dropWhile Char.isDigit)
    | _ => ([], rest)
  if whole.isEmpty && fraction.isEmpty then none
  else
    let digits := (fraction ++ List.replicate 9 '0').take 9
    let seconds := Arithmetic.ofDigits 10 whole * 1000000000 + Arithmetic.ofDigits 10 digits
    match unit with
    | [] | ['s'] => some seconds
    | ['m'] => some (seconds * 60)
    | ['h'] => some (seconds * 3600)
    | ['d'] => some (seconds * 86400)
    | _ => none

/-- Lets time pass. -/
def sleep (start : Start) : Action Nat := do
  match start.arguments with
  | [] => confuse start "missing operand" 1
  | arguments =>
    match arguments.find? fun text => (span? text).isNone with
    | some text => confuse start ("invalid time interval " ++ quoted text) 1
    | none =>
      Action.sleep ((arguments.filterMap span?).foldr (· + ·) 0)
      return 0

/-- The number of a signal given by name or number. -/
def signal? (text : Octets) : Option Nat :=
  match Decimal.readNat? text with
  | some n => some n
  | none =>
    let name := String.ofList (text.map Char.toUpper)
    (Process.signalNames.find? fun entry => entry.2 = name).map (·.1)

/-- What `kill` is asked for. -/
inductive Killing
  | send (signal : Nat) (targets : List Octets)
  | list (words : List Octets)
  | confused
  | unknownOption (letter : Char)
  | unknownSignal (name : Octets)
  deriving DecidableEq, Repr

/-- Takes the arguments of `kill` apart. -/
def Killing.ofArguments (arguments : List Octets) : Killing :=
  let aimed (signal : Nat) (targets : List Octets) : Killing :=
    match targets with
    | [] => .confused
    | ['-', '-'] :: targets => .send signal targets
    | targets => .send signal targets
  match arguments with
  | [] => .confused
  | ['-', 's'] :: name :: rest =>
    match signal? name with
    | some n => aimed n rest
    | none => .unknownSignal name
  | ['-', 'l'] :: rest => .list rest
  | ['-', '-'] :: rest => aimed 15 rest
  | ('-' :: c :: name) :: rest =>
    match signal? (c :: name) with
    | some n => aimed n rest
    | none => .unknownOption c
  | rest => aimed 15 rest

/-- The lines that list the signals. -/
def signalList : Octets :=
  let name (n : Nat) : String :=
    if n = 16 then "16"
    else
      match Process.signalNames.lookup n with
      | some name => name
      | none =>
        if n < 34 then Process.number n
        else if n = 34 then "RTMIN"
        else if n < 50 then "RTMIN+" ++ Process.number (n - 34)
        else if n < 64 then "RTMAX-" ++ Process.number (64 - n)
        else "RTMAX"
  (List.range 65).flatMap fun n => Octets.ofText (name n ++ "\n")

/-- Sends a signal to processes. -/
def kill (start : Start) : Action Nat := do
  match Killing.ofArguments start.arguments with
  | .confused =>
    complain start ("Usage: kill [-s sigspec | -signum | -sigspec] [pid | job]... or\n"
      ++ "kill -l [exitstatus]") 2
  | .unknownOption letter => complain start ("Illegal option -" ++ String.singleton letter) 2
  | .unknownSignal name => complain start ("invalid signal number or name: " ++ name.toText) 2
  | .list [] =>
    put 1 signalList
    return 0
  | .list words =>
    put 1 (words.flatMap fun word =>
      match Decimal.readNat? word with
      | some n => Octets.ofText ((Process.signalNames.lookup (n % 128)).getD "0" ++ "\n")
      | none => [])
    return 0
  | .send number targets =>
    let mut status := 0
    for target in targets do
      match Arithmetic.ofText? target with
      | some pid =>
        let there ← Action.kill pid.natAbs number
        if !there then status ← complain start "No such process\n" 1
      | none =>
        let fault := if target.head? = some '%' then "No such job: " else "Illegal number: "
        status ← complain start (fault ++ target.toText) 2
    return status

end Tools

end CodeJudge.Shell
