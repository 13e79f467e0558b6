import CodeJudge.Shell.Arithmetic
import CodeJudge.Shell.Tool

/-!
# Tools that pass bytes on

Tools that copy what they read, whole or in part, and tools that make bytes of their own. Each reads
no more than it needs, so one that has enough ends while its input still goes on.
-/

namespace CodeJudge.Shell

open Process (Action)

namespace Tools

/-- Copies files one after another. -/
def concatenate (start : Start) (status : Nat) : List Octets → Action Nat
  | [] => pure status
  | path :: rest => do
    if path = ['-'] then
      copy 0 1 start.bound
      concatenate start status rest
    else
      match ← openSpare start path .read with
      | .ok () =>
        if ← Action.overlaps spare 1 then
          let status ← complain start (path.toText ++ ": input file is output file") 1
          concatenate start status rest
        else
          copy spare 1 start.bound
          concatenate start status rest
      | .error fault =>
        let status ← complain start (plainly path.toText fault) 1
        concatenate start status rest

/-- Text cut at every newline, each line with its newline. -/
def linesKept (text : Octets) : List Octets :=
  let rec go (held : Octets) : Octets → List Octets
    | [] => if held.isEmpty then [] else [held.reverse]
    | '\n' :: rest => ('\n' :: held).reverse :: go [] rest
    | c :: rest => go (c :: held) rest
  go [] text

/-- Copies files one after another, plain or with marks at the ends or numbers before the lines. -/
def cat (start : Start) : Action Nat := do
  let (letters, paths) := options [] start.arguments
  if letters.isEmpty || letters = ['u'] then concatenate start 0 (orInput paths)
  else
    let (texts, status) ← contentsOf start plainly [] 0 (orInput paths)
    let marked (line : Octets) : Octets :=
      if (letters.contains 'E' || letters.contains 'A' || letters.contains 'e')
          && line.getLast? = some '\n' then line.dropLast ++ ['$', '\n']
      else line
    let blanks := letters.contains 'b'
    let (shown, _) := (linesKept (texts.flatMap (·.2))).foldl
      (fun ((shown : List Octets), (number : Nat)) line =>
        if (letters.contains 'n' && !blanks) || (blanks && line != ['\n']) then
          let digits := Octets.ofInt number
          ((List.replicate (6 - digits.length) ' ' ++ digits ++ '\t' :: marked line) :: shown, number + 1)
        else (marked line :: shown, number)) ([], 1)
    put 1 shown.reverse.flatten
    return status

/-- Copies so many bytes. -/
def headBytes (descriptor : Nat) (count : Nat) : Nat → Action Unit
  | 0 => pure ()
  | bound + 1 => do
    if count = 0 then pure () else
    match ← Action.read descriptor (min count block) with
    | none => pure ()
    | some bytes =>
      if bytes.size = 0 then pure ()
      else
        let _ ← Action.write 1 bytes
        headBytes descriptor (count - bytes.size) bound

/-- The first lines of octets, and how many lines are still missing. -/
def firstLines : Nat → Octets → Octets × Nat
  | 0, _ => ([], 0)
  | count, [] => ([], count)
  | count + 1, c :: rest =>
    let (taken, missing) := firstLines (if c = '\n' then count else count + 1) rest
    (c :: taken, missing)

/-- Copies so many lines. -/
def headLines (descriptor : Nat) (count : Nat) : Nat → Action Unit
  | 0 => pure ()
  | bound + 1 => do
    if count = 0 then pure () else
    match ← Action.read descriptor 8192 with
    | none => pure ()
    | some bytes =>
      if bytes.size = 0 then pure ()
      else
        let (taken, missing) := firstLines count (Octets.ofArray bytes)
        put 1 taken
        headLines descriptor missing bound

/-- How much of the input is wanted. -/
structure Amount where
  /-- Whether bytes are counted, and not lines. -/
  bytes : Bool := false
  /-- A sign before the number. -/
  sign : Option Char := none
  count : Nat := 10
  /-- Whether the names of the files are left out. -/
  quiet : Bool := false
  paths : List Octets := []

/-- An amount from the text of its number, which may have a sign and a unit. -/
def Amount.read? (amount : Amount) (bytes : Bool) (text : Octets) : Option Amount :=
  let (sign, digits) : Option Char × Octets := match text with
    | '+' :: rest => (some '+', rest)
    | '-' :: rest => (some '-', rest)
    | _ => (none, text)
  let (digits, factor) : Octets × Nat := match digits.reverse with
    | 'k' :: rest | 'K' :: rest => (rest.reverse, 1024)
    | 'M' :: rest => (rest.reverse, 1048576)
    | 'b' :: rest => (rest.reverse, 512)
    | _ => (digits, 1)
  if digits.all Char.isDigit then
    (Decimal.readNat? digits).map fun n => { amount with bytes, sign, count := n * factor }
  else none

/-- Takes the arguments of `head` or `tail` apart; a fault is the text that is no number. -/
def amountOf (amount : Amount) : List Octets → Except (Bool × Octets) Amount
  | ['-', '-'] :: rest => .ok { amount with paths := amount.paths ++ rest }
  | ['-', 'q'] :: rest => amountOf { amount with quiet := true } rest
  | ['-', 'n'] :: text :: rest => counted false text rest
  | ['-', 'c'] :: text :: rest => counted true text rest
  | ('-' :: 'n' :: text) :: rest => counted false text rest
  | ('-' :: 'c' :: text) :: rest => counted true text rest
  | ('-' :: c :: text) :: rest =>
    if c.isDigit then counted false (c :: text) rest
    else amountOf { amount with paths := amount.paths ++ ['-' :: c :: text] } rest
  | path :: rest => amountOf { amount with paths := amount.paths ++ [path] } rest
  | [] => .ok amount
where
  /-- Goes on behind a number. -/
  counted (bytes : Bool) (text : Octets) (rest : List Octets) : Except (Bool × Octets) Amount :=
    match amount.read? bytes text with
    | some amount => amountOf amount rest
    | none => .error (bytes, text)

/-- The complaint about an amount that is no number. -/
def badAmount (start : Start) (bytes : Bool) (text : Octets) : Action Nat :=
  complain start ("invalid number of " ++ (if bytes then "bytes" else "lines") ++ ": " ++ quoted text) 1

/-- Writes the name of a file before its part, if there are several. -/
def titled (amount : Amount) (first : Bool) (path : Octets) : Action Unit :=
  if amount.paths.length > 1 && !amount.quiet then
    put 1 ((if first then [] else ['\n']) ++ Octets.ofText "==> "
      ++ (if path = ['-'] then Octets.ofText "standard input" else path) ++ Octets.ofText " <==\n")
  else pure ()

/-- The first part of the input or of files. -/
def head (start : Start) : Action Nat := do
  match amountOf {} start.arguments with
  | .error (bytes, text) => badAmount start bytes text
  | .ok amount =>
    let copyFrom (descriptor : Nat) : Action Unit := do
      if amount.sign = some '-' then
        let text := Octets.ofArray (← readAll descriptor .empty start.bound)
        if amount.bytes then put 1 (text.take (text.length - amount.count))
        else
          let lines := linesKept text
          put 1 (lines.take (lines.length - amount.count)).flatten
      else if amount.bytes then headBytes descriptor amount.count start.bound
      else headLines descriptor amount.count start.bound
    let mut status := 0
    let mut first := true
    for path in orInput amount.paths do
      if path = ['-'] then
        titled amount first path
        copyFrom 0
        first := false
      else
        match ← openSpare start path .read with
        | .ok () =>
          titled amount first path
          copyFrom spare
          first := false
        | .error fault =>
          status ← complain start ("cannot open " ++ quoted path ++ " for reading: " ++ words fault) 1
    return status

/-- The last part of the input or of files. -/
def tail (start : Start) : Action Nat := do
  let arguments := match start.arguments with
    | ('+' :: text) :: rest => ['-', 'n'] :: ('+' :: text) :: rest
    | arguments => arguments
  match amountOf {} arguments with
  | .error (bytes, text) => badAmount start bytes text
  | .ok amount =>
    let (texts, status) ← contentsOf start
      (fun path fault => "cannot open '" ++ path ++ "' for reading: " ++ words fault) [] 0
      (orInput amount.paths)
    let mut first := true
    for (path, text) in texts do
      titled amount first path
      first := false
      let after (length : Nat) : Nat :=
        if amount.sign = some '+' then amount.count - 1 else length - amount.count
      if amount.bytes then put 1 (text.drop (after text.length))
      else
        let lines := linesKept text
        put 1 (lines.drop (after lines.length)).flatten
    return status

/-- Copies the input to the output and to files. -/
def tee (start : Start) : Action Nat := do
  let (letters, paths) := options [] start.arguments
  let bytes ← readAll 0 .empty start.bound
  let _ ← Action.write 1 bytes
  for path in paths do
    match ← openSpare start path (if letters.contains 'a' then .append else .write) with
    | .ok () =>
      let _ ← Action.write spare bytes
    | .error fault =>
      let _ ← complain start (plainly path.toText fault) 1
  return 0

/-- Writes bytes again and again, as long as that goes well. -/
def again (bytes : ByteArray) : Nat → Action Unit
  | 0 => pure ()
  | bound + 1 => do
    if ← Action.write 1 bytes then again bytes bound else pure ()

/-- Writes a line again and again. -/
def yes (start : Start) : Action Nat := do
  let line := match start.arguments with
    | [] => ['y']
    | words => List.intercalate [' '] words
  let lines := List.replicate (block / (line.length + 1) + 1) (line ++ ['\n'])
  again (Octets.toArray lines.flatten) start.bound
  complain start "standard output: Broken pipe" 1

/-- Writes numbers in order. -/
def seq (start : Start) : Action Nat := do
  match start.arguments with
  | [] => confuse start "missing operand" 1
  | arguments =>
    match arguments.find? fun text => (Arithmetic.ofText? text).isNone with
    | some text => confuse start ("invalid floating point argument: " ++ quoted text) 1
    | none =>
      match arguments.filterMap Arithmetic.ofText? with
      | [last] => lines 1 1 last
      | [first, last] => lines first 1 last
      | [first, step, last] =>
        if step = 0 then
          confuse start ("invalid Zero increment value: " ++ quoted (arguments.getD 1 [])) 1
        else lines first step last
      | _ => confuse start ("extra operand " ++ quoted (arguments.getD 3 [])) 1
where
  /-- The lines of the numbers from one to another. -/
  lines (first step last : Int) : Action Nat := do
    let count := ((last - first).fdiv step + 1).toNat
    put 1 ((List.range count).flatMap fun (i : Nat) => Octets.ofInt (first + step * i) ++ ['\n'])
    return 0

/-- The value of an operand of `dd`. -/
def operand (name : String) (arguments : List Octets) : Option Octets :=
  arguments.findSome? fun text =>
    if (name.toList ++ ['=']).isPrefixOf text then some (text.drop (name.length + 1)) else none

/-- Makes a descriptor lead to the file of an operand, if it is given; a fault has been complained
of. -/
def leadTo (start : Start) (name : String) (descriptor : Nat) (mode : Process.Mode) : Action Bool := do
  match operand name start.arguments with
  | none => return true
  | some path =>
    match ← Action.openFile start.here path.toText mode with
    | .ok handle =>
      let descriptors ← Action.descriptors
      Action.setDescriptors (descriptors.set descriptor handle)
      return true
    | .error fault =>
      let _ ← complain start ("failed to open " ++ quoted path ++ ": " ++ words fault) 1
      return false

/-- Copies blocks of bytes. -/
def dd (start : Start) : Action Nat := do
  let size (name : String) (usual : Nat) : Nat :=
    ((operand name start.arguments).bind fun text => (({} : Amount).read? true text).map (·.count)).getD usual
  if !(← leadTo start "if" 0 .read) then return 1
  if !(← leadTo start "of" 1 .write) then return 1
  match operand "count" start.arguments with
  | some _ => headBytes 0 (size "bs" 512 * size "count" 0) start.bound
  | none => copy 0 1 start.bound
  return 0

end Tools

end CodeJudge.Shell
