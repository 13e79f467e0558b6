import CodeJudge.Shell.Regex
import CodeJudge.Shell.Tool.Passage

/-!
# The line editor

Instructions that substitute, print or delete, each for all lines or for some. A range of lines is
open from a line that its first address means to the next one that its second address means, so the
editor remembers from line to line which ranges are open.
-/

namespace CodeJudge.Shell

open Process (Action)

namespace Tools

/-- What one instruction of `sed` does. -/
inductive Edit
  | substitute (regex : Regex) (template : Octets) (everywhere printed : Bool) (first : Nat)
  /-- Replaces each character by the one at its place in another list. -/
  | transliterate (former latter : Octets)
  | print
  | number
  | delete
  | quit (status : Nat)
  | before (text : Octets)
  | after (text : Octets)
  | instead (text : Octets)

/-- Which lines an instruction is for. -/
inductive Address
  | line (n : Nat)
  | last
  | matching (regex : Regex)

/-- An instruction: the addresses of its lines, none for every line, and whether it is for the other
lines. -/
structure Instruction where
  first : Option Address
  last : Option Address
  opposite : Bool
  edit : Edit

/-- Takes text up to a delimiter that no backslash stands before. -/
def delimited (delimiter : Char) (held : Octets) : Octets → Option (Octets × Octets)
  | [] => none
  | '\\' :: c :: rest =>
    if c = delimiter then delimited delimiter (c :: held) rest
    else delimited delimiter (c :: '\\' :: held) rest
  | c :: rest => if c = delimiter then some (held.reverse, rest) else delimited delimiter (c :: held) rest

/-- Takes an address, if one stands here. -/
def address? (isExtended : Bool) (text : Octets) : Option Address × Octets :=
  match text with
  | '/' :: rest =>
    match delimited '/' [] rest with
    | some (pattern, rest) => (some (.matching (.ofText isExtended pattern)), rest)
    | none => (none, text)
  | '$' :: rest => (some .last, rest)
  | c :: _ =>
    if c.isDigit then
      let number := text.takeWhile Char.isDigit
      (some (.line (Arithmetic.ofDigits 10 number)), text.drop number.length)
    else (none, text)
  | [] => (none, [])

/-- The text of an instruction that adds a line: all of the line it stands on. -/
def addedText (text : Octets) : Octets × Octets :=
  let text := text.dropWhile fun c => c = ' ' || c = '\\' || c = '\n'
  (text.takeWhile (· != '\n') ++ ['\n'], text.dropWhile (· != '\n'))

/-- Takes what an instruction does. -/
def edit? (isExtended : Bool) : Octets → Option (Edit × Octets)
  | 's' :: delimiter :: rest => do
    let (pattern, rest) ← delimited delimiter [] rest
    let (template, rest) ← delimited delimiter [] rest
    let isFlag (c : Char) : Bool := c = 'g' || c = 'p' || c.isDigit
    let flags := rest.takeWhile isFlag
    let number := flags.filter Char.isDigit
    return (.substitute (.ofText isExtended pattern) template (flags.contains 'g') (flags.contains 'p')
      (if number.isEmpty then 1 else Arithmetic.ofDigits 10 number), rest.drop flags.length)
  | 'y' :: delimiter :: rest => do
    let (former, rest) ← delimited delimiter [] rest
    let (latter, rest) ← delimited delimiter [] rest
    if former.length = latter.length then return (.transliterate former latter, rest) else none
  | 'p' :: rest => some (.print, rest)
  | '=' :: rest => some (.number, rest)
  | 'd' :: rest => some (.delete, rest)
  | 'q' :: rest =>
    let number := (Arithmetic.skip rest).takeWhile Char.isDigit
    some (.quit (Arithmetic.ofDigits 10 number), (Arithmetic.skip rest).drop number.length)
  | 'i' :: rest => some (.before (addedText rest).1, (addedText rest).2)
  | 'a' :: rest => some (.after (addedText rest).1, (addedText rest).2)
  | 'c' :: rest => some (.instead (addedText rest).1, (addedText rest).2)
  | _ => none

/-- Takes instructions one after another. -/
def instructions? (isExtended : Bool) (held : List Instruction) :
    Nat → Octets → Option (List Instruction)
  | 0, _ => none
  | fuel + 1, text =>
    let text := text.dropWhile fun c => c = ' ' || c = '\t' || c = '\n' || c = ';'
    if text.isEmpty then some held.reverse
    else do
      let (first, text) := address? isExtended text
      let (last, text) : Option Address × Octets := match text with
        | ',' :: text => address? isExtended text
        | text => (none, text)
      let text := Arithmetic.skip text
      let opposite := text.head? = some '!'
      let (edit, text) ← edit? isExtended (Arithmetic.skip (if opposite then text.tail else text))
      let text := text.dropWhile fun c => c = ' ' || c = '\t'
      match text with
      | [] | ';' :: _ | '\n' :: _ => instructions? isExtended (⟨first, last, opposite, edit⟩ :: held) fuel text
      | _ => none

/-- Whether an address means a line. -/
def Address.means (address : Address) (number : Nat) (isLast : Bool) (line : Octets) : Bool :=
  match address with
  | .line n => n = number
  | .last => isLast
  | .matching regex => regex.isIn line

/-- Whether an instruction is for a line, and whether its range is open behind the line. -/
def Instruction.meets (instruction : Instruction) (isOpen : Bool) (number : Nat) (isLast : Bool)
    (line : Octets) : Bool × Bool :=
  let (inside, after) : Bool × Bool :=
    match instruction.first, instruction.last with
    | none, _ => (true, false)
    | some first, none => (first.means number isLast line, false)
    | some first, some final =>
      if isOpen then
        let ends := match final with
          | .line n => n ≤ number
          | _ => final.means number isLast line
        (true, !ends)
      else if first.means number isLast line then
        let ends := match final with
          | .line n => n ≤ number
          | _ => false
        (true, !ends)
      else (false, false)
  (inside != instruction.opposite, after)

/-- What becomes of a line. -/
structure Edited where
  /-- What is written before the line. -/
  written : Octets := []
  line : Octets
  /-- What is written after the line. -/
  behind : Octets := []
  kept : Bool := true
  /-- The status to stop with behind the line. -/
  stop : Option Nat := none

/-- Carries out one instruction on a line. -/
def Edit.apply (edit : Edit) (number : Nat) (edited : Edited) : Edited :=
  match edit with
  | .substitute regex template everywhere printed first =>
    let (line, count) :=
      regex.replace template everywhere first true false (edited.line.length + 2) edited.line
    { edited with
      line
      written := if count > 0 && printed then edited.written ++ line ++ ['\n'] else edited.written }
  | .transliterate former latter =>
    { edited with line := edited.line.map fun c => latter.getD (former.idxOf c) c }
  | .print => { edited with written := edited.written ++ edited.line ++ ['\n'] }
  | .number => { edited with written := edited.written ++ Octets.ofInt number ++ ['\n'] }
  | .delete => { edited with kept := false }
  | .quit status => { edited with stop := some status }
  | .before text => { edited with written := edited.written ++ text }
  | .after text => { edited with behind := edited.behind ++ text }
  | .instead text => { edited with written := edited.written ++ text, kept := false }

/-- Carries out instructions on one line; with them stand the ranges that are open. -/
def editLine (number : Nat) (isLast : Bool) (edited : Edited) :
    List (Instruction × Bool) → Edited × List Bool
  | [] => (edited, [])
  | (instruction, isOpen) :: rest =>
    let (meant, after) := instruction.meets isOpen number isLast edited.line
    let edited := if meant && edited.kept && edited.stop.isNone then instruction.edit.apply number edited
      else edited
    let (edited, others) := editLine number isLast edited rest
    (edited, after :: others)

/-- Carries out instructions on every line: what is written, and the status to end with. -/
def editLines (instructions : List Instruction) (silent : Bool) (number : Nat) (ranges : List Bool)
    (held : List Octets) : List Octets → Octets × Nat
  | [] => (held.reverse.flatten, 0)
  | line :: rest =>
    let body := line.takeWhile (· != '\n')
    let (edited, ranges) := editLine number rest.isEmpty { line := body } (instructions.zip ranges)
    let shown := edited.written
      ++ (if silent || !edited.kept then [] else edited.line ++ line.drop (line.length - line.count '\n'))
      ++ edited.behind
    match edited.stop with
    | some status => ((shown :: held).reverse.flatten, status)
    | none => editLines instructions silent (number + 1) ranges (shown :: held) rest

/-- What `sed` is asked for. -/
structure EditRequest where
  silent : Bool := false
  isExtended : Bool := false
  inPlace : Bool := false
  script : Option Octets := none
  paths : List Octets := []

/-- Takes the arguments of `sed` apart. -/
def editRequest (request : EditRequest) : List Octets → EditRequest
  | ['-', 'e'] :: script :: rest =>
    let script := match request.script with
      | some before => before ++ '\n' :: script
      | none => script
    editRequest { request with script := some script } rest
  | ('-' :: c :: letters) :: rest =>
    let letters := c :: letters
    editRequest { request with
      silent := request.silent || letters.contains 'n'
      isExtended := request.isExtended || letters.contains 'E' || letters.contains 'r'
      inPlace := request.inPlace || letters.contains 'i' } rest
  | word :: rest =>
    match request.script with
    | none => editRequest { request with script := some word } rest
    | some _ => editRequest { request with paths := request.paths ++ [word] } rest
  | [] => request

/-- Edits lines. -/
def sed (start : Start) : Action Nat := do
  let request := editRequest {} start.arguments
  match request.script with
  | none => complain start "no script specified" 1
  | some script =>
    match instructions? request.isExtended [] (script.length + 2) script with
    | none => complain start "-e expression #1, char 1: unknown command" 1
    | some instructions =>
      let edited (text : Octets) : Octets × Nat :=
        editLines instructions request.silent 1 (instructions.map fun _ => false) [] (linesKept text)
      let (texts, status) ← contentsOf start
        (fun path fault => "can't read " ++ plainly path fault) [] 0 (orInput request.paths)
      if request.inPlace then
        for (path, text) in texts do
          match ← openSpare start path .write with
          | .ok () => put spare (edited text).1
          | .error _ => pure ()
        return if status = 0 then 0 else 2
      else
        let (text, ending) := edited (texts.flatMap (·.2))
        put 1 text
        return if status = 0 then ending else 2

end Tools

end CodeJudge.Shell
