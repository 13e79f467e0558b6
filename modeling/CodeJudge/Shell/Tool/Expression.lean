import CodeJudge.Shell.Regex
import CodeJudge.Shell.Tool.Passage

/-!
# Expressions in arguments

The tool that computes with its arguments: numbers, comparisons and matches, each operand and each
operator an argument of its own. Values are texts; those that are numbers can be computed with.
-/

namespace CodeJudge.Shell

open Process (Action)

namespace Tools

namespace Expression

/-- Why an expression has no value. -/
inductive Fault
  | missing (after : Octets)
  | unexpected (word : Octets)
  | notInteger
  | division
  | unclosed (after : Octets)
  deriving DecidableEq, Repr

/-- The words for a fault. -/
def Fault.message : Fault → String
  | missing after => "syntax error: missing argument after " ++ quoted after
  | unexpected word => "syntax error: unexpected argument " ++ quoted word
  | notInteger => "non-integer argument"
  | division => "division by zero"
  | unclosed after => "syntax error: expecting ')' after " ++ quoted after

/-- A value and the words behind it. -/
abbrev Answer := Except Fault (Octets × List Octets)

/-- The number that a text is, written with decimal digits. -/
def number? (text : Octets) : Option Int :=
  let (negative, digits) : Bool × Octets := match text with
    | '-' :: rest => (true, rest)
    | rest => (false, rest)
  if !digits.isEmpty && digits.all Char.isDigit then
    let n : Int := Arithmetic.ofDigits 10 digits
    some (if negative then -n else n)
  else none

/-- Whether a value counts as nothing: the empty text, and zero. -/
def isNull (text : Octets) : Bool := text.isEmpty || number? text = some 0

/-- The text of a truth. -/
def ofBool (b : Bool) : Octets := if b then ['1'] else ['0']

/-- The operators, from those that bind least. -/
def levels : List (List Octets) :=
  [[['|']], [['&']], [['<'], ['<', '='], ['='], ['=', '='], ['!', '='], ['>', '='], ['>']],
    [['+'], ['-']], [['*'], ['/'], ['%']], [[':']]]

/-- What a text matches from its front: the first group if there is one, or else the length. -/
def match_ (text pattern : Octets) : Octets :=
  let regex := Regex.ofText false pattern
  let grouped := (Mark.basic [] (pattern.length + 1) pattern).contains .opening
  match regex.matchFront true text with
  | some place =>
    if grouped then (place.groups.lookup 1).getD [] else Octets.ofInt (place.count : Nat)
  | none => if grouped then [] else ['0']

/-- The value of an operation. -/
def apply (operator a b : Octets) : Except Fault Octets :=
  let numbers : Option (Int × Int) := do return (← number? a, ← number? b)
  let compare (ofNumbers : Int → Int → Bool) (ofTexts : Bool) : Except Fault Octets :=
    .ok (ofBool (match numbers with
      | some (x, y) => ofNumbers x y
      | none => ofTexts))
  let compute (value : Int → Int → Int) : Except Fault Octets :=
    match numbers with
    | some (x, y) => .ok (Octets.ofInt (value x y))
    | none => .error .notInteger
  let divide (value : Int → Int → Int) : Except Fault Octets :=
    match numbers with
    | some (_, 0) => .error .division
    | _ => compute value
  match operator with
  | ['|'] => .ok (if isNull a then (if isNull b then ['0'] else b) else a)
  | ['&'] => .ok (if isNull a || isNull b then ['0'] else a)
  | ['<'] => compare (fun x y => x < y) (decide (a < b))
  | ['<', '='] => compare (fun x y => x ≤ y) (Octets.noLater a b)
  | ['='] | ['=', '='] => compare (fun x y => x = y) (a = b)
  | ['!', '='] => compare (fun x y => x ≠ y) (a ≠ b)
  | ['>', '='] => compare (fun x y => x ≥ y) (Octets.noLater b a)
  | ['>'] => compare (fun x y => x > y) (decide (b < a))
  | ['+'] => compute (· + ·)
  | ['-'] => compute (· - ·)
  | ['*'] => compute (· * ·)
  | ['/'] => divide Int.tdiv
  | ['%'] => divide Int.tmod
  | _ => .ok (match_ a b)

mutual

/-- Takes an expression of operators from a level on. `last` is the word before it. -/
def level (operators : List (List Octets)) (last : Octets) : Nat → List Octets → Answer
  | 0, words => .ok ([], words)
  | fuel + 1, words =>
    match operators with
    | [] => primary last fuel words
    | own :: tighter => do
      let (value, rest) ← level tighter last fuel words
      climb own tighter value fuel rest

/-- Goes on with the operators of a level behind a value. -/
def climb (own : List Octets) (tighter : List (List Octets)) (value : Octets) :
    Nat → List Octets → Answer
  | 0, words => .ok (value, words)
  | fuel + 1, words =>
    match words with
    | operator :: rest =>
      if own.contains operator then do
        let (right, rest) ← level tighter operator fuel rest
        climb own tighter (← apply operator value right) fuel rest
      else .ok (value, words)
    | [] => .ok (value, [])

/-- Takes an operand. -/
def primary (last : Octets) : Nat → List Octets → Answer
  | 0, words => .ok ([], words)
  | fuel + 1, words =>
    match words with
    | [] => .error (.missing last)
    | ['('] :: rest => do
      let (value, rest) ← level levels ['('] fuel rest
      match rest with
      | [')'] :: rest => .ok (value, rest)
      | [] => .error (.unclosed ((words.getLast?).getD []))
      | word :: _ => .error (.unexpected word)
    | [')'] :: _ => .error (.unexpected [')'])
    | ['+'] :: word :: rest => .ok (word, rest)
    | ['l', 'e', 'n', 'g', 't', 'h'] :: word :: rest => .ok (Octets.ofInt (word.length : Nat), rest)
    | word :: rest => .ok (word, rest)

end

/-- The value of all the words. -/
def evaluate (words : List Octets) : Except Fault Octets := do
  let (value, rest) ← level levels [] ((words.length + 2) * 10) words
  match rest with
  | [] => return value
  | word :: _ => throw (.unexpected word)

end Expression

/-- Writes the value of an expression; the status tells whether it counts as nothing. -/
def expr (start : Start) : Action Nat := do
  match start.arguments with
  | [] => confuse start "missing operand" 2
  | words =>
    match Expression.evaluate words with
    | .error fault => complain start fault.message 2
    | .ok value =>
      put 1 (value ++ ['\n'])
      return if Expression.isNull value then 1 else 0

end Tools

end CodeJudge.Shell
