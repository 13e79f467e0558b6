import CodeJudge.Shell.Arithmetic
import CodeJudge.Files.Tree

/-!
# Conditions

What `test` decides: comparisons of texts and numbers, and questions about files.
-/

namespace CodeJudge.Shell.Condition

/-- The files, seen from a directory. -/
structure Sight where
  files : FileTree
  here : List String

/-- What stands at a path. -/
def Sight.node? (sight : Sight) (path : Octets) : Option Node :=
  match sight.files.find sight.here path.toText with
  | .ok (_, node) => some node
  | .error _ => none

/-- The operators on one word. -/
def unaries : List Octets :=
  "rwxefdcbpugkstznhOGLS".toList.map fun c => ['-', c]

/-- The operators on two words. -/
def binaries : List Octets :=
  ["=", "!=", "<", ">", "-eq", "-ne", "-ge", "-gt", "-le", "-lt", "-nt", "-ot", "-ef"].map String.toList

/-- Answers a question about one word. -/
def unary (sight : Sight) (operator word : Octets) : Bool :=
  let content := match sight.node? word with
    | some (.file number) => sight.files.content? number
    | _ => none
  match operator with
  | ['-', 'n'] => !word.isEmpty
  | ['-', 'z'] => word.isEmpty
  | ['-', 'e'] | ['-', 'r'] | ['-', 'w'] | ['-', 'O'] | ['-', 'G'] => (sight.node? word).isSome
  | ['-', 'f'] => content.isSome
  | ['-', 'd'] => sight.node? word == some .directory
  | ['-', 's'] => content.any (fun c => c.bytes.size > 0) || sight.node? word == some .directory
  | ['-', 'x'] => sight.node? word == some .directory || content.any (·.executable)
  | _ => false

/-- A word as a number, written with decimal digits. -/
def number (word : Octets) : Except String Int :=
  let isBlank (c : Char) : Bool := c = ' ' || ('\t' ≤ c && c ≤ '\r')
  let trimmed := word.dropWhile isBlank
  let (negative, digits) : Bool × Octets := match trimmed with
    | '-' :: rest => (true, rest)
    | '+' :: rest => (false, rest)
    | _ => (false, trimmed)
  let value : Int := Arithmetic.ofDigits 10 (digits.takeWhile Char.isDigit)
  let value := if negative then -value else value
  if (digits.headD ' ').isDigit && ((digits.dropWhile Char.isDigit).all isBlank)
      && (Decimal.int64.admit? value).isSome then .ok value
  else .error ("Illegal number: " ++ word.toText)

/-- Compares two numbers. -/
def compare (a b : Octets) (holds : Int → Int → Bool) : Except String Bool := do
  let a ← number a
  let b ← number b
  return holds a b

/-- Answers a question about two words. -/
def binary (sight : Sight) (a operator b : Octets) : Except String Bool :=
  match operator with
  | ['='] => .ok (a = b)
  | ['!', '='] => .ok (a ≠ b)
  | ['<'] => .ok (decide (a < b))
  | ['>'] => .ok (decide (b < a))
  | ['-', 'e', 'q'] => compare a b fun x y => x = y
  | ['-', 'n', 'e'] => compare a b fun x y => x ≠ y
  | ['-', 'l', 't'] => compare a b fun x y => x < y
  | ['-', 'l', 'e'] => compare a b fun x y => x ≤ y
  | ['-', 'g', 't'] => compare a b fun x y => x > y
  | ['-', 'g', 'e'] => compare a b fun x y => x ≥ y
  | ['-', 'e', 'f'] => .ok ((sight.node? a).isSome && sight.node? a == sight.node? b)
  | _ => .ok false

/-- What a word is where a condition may begin or go on. -/
inductive Sign
  | nothing
  | operand
  | negation
  | opening
  | closing
  | conjunction
  | disjunction
  | unary
  | binary
  deriving DecidableEq, Repr

/-- What the first of the words is. An operator on one word counts as an operand when nothing follows
it, or when what follows is a comparison of it. -/
def sign : List Octets → Sign
  | [] => .nothing
  | ['!'] :: _ => .negation
  | ['('] :: rest => if rest.isEmpty then .operand else .opening
  | [')'] :: _ => .closing
  | ['-', 'a'] :: _ => .conjunction
  | ['-', 'o'] :: _ => .disjunction
  | word :: rest =>
    if binaries.contains word then .binary
    else if unaries.contains word then
      match rest with
      | [] => .operand
      | [_] => .unary
      | next :: after :: _ =>
        if binaries.contains next && after != [')'] then .operand else .unary
    else .operand

/-- A value, and the words from the last one that it took. -/
abbrev Taken := Bool × List Octets

mutual

/-- Takes conditions joined by `-o`. -/
def either (sight : Sight) : Nat → Sign → List Octets → Except String Taken
  | 0, _, _ => .error "too many arguments"
  | fuel + 1, first, words => do
    let (left, at_) ← both sight fuel first words
    if sign at_.tail = .disjunction then
      let rest := at_.drop 2
      let (right, at_) ← either sight fuel (sign rest) rest
      return (left || right, at_)
    else return (left, at_)

/-- Takes conditions joined by `-a`. -/
def both (sight : Sight) : Nat → Sign → List Octets → Except String Taken
  | 0, _, _ => .error "too many arguments"
  | fuel + 1, first, words => do
    let (left, at_) ← negated sight fuel first words
    if sign at_.tail = .conjunction then
      let rest := at_.drop 2
      let (right, at_) ← both sight fuel (sign rest) rest
      return (left && right, at_)
    else return (left, at_)

/-- Takes a condition that may be negated. -/
def negated (sight : Sight) : Nat → Sign → List Octets → Except String Taken
  | 0, _, _ => .error "too many arguments"
  | fuel + 1, first, words => do
    if first = .negation then
      let next := sign words.tail
      let (value, at_) ← negated sight fuel next (if next = .nothing then words else words.tail)
      return (!value, at_)
    else single sight fuel first words

/-- Takes one condition. -/
def single (sight : Sight) : Nat → Sign → List Octets → Except String Taken
  | 0, _, _ => .error "too many arguments"
  | fuel + 1, first, words => do
    match first, words with
    | .nothing, _ | _, [] => return (false, words)
    | .opening, _ :: rest =>
      if sign rest = .closing then return (false, rest)
      else
        let (value, at_) ← either sight fuel (sign rest) rest
        if sign at_.tail = .closing then return (value, at_.tail) else throw "closing paren expected"
    | .unary, operator :: rest =>
      match rest with
      | [] => throw (operator.toText ++ ": argument expected")
      | word :: _ => return (unary sight operator word, rest)
    | _, a :: rest =>
      match sign rest, rest with
      | .binary, operator :: b :: after => return (← binary sight a operator b, b :: after)
      | .binary, operator :: [] => throw (operator.toText ++ ": argument expected")
      | _, _ => return (!a.isEmpty, words)

end

/-- The answer to a whole condition. Of three words the second decides how they are read if it can,
and of three or four words the outer ones may be parentheses. -/
def evaluate (sight : Sight) (words : List Octets) : Except String Bool := do
  let fuel := words.length * 6 + 8
  let few := words.length = 3 || words.length = 4
  let (first, words) : Sign × List Octets :=
    if words.length = 3 && binaries.contains (words.getD 1 []) then (.operand, words)
    else if few && words.head? = some ['('] && words.getLast? = some [')'] then
      (sign words.tail.dropLast, words.tail.dropLast)
    else if few && words.head? = some ['!'] then (.negation, words)
    else (sign words, words)
  match words with
  | [] => return false
  | _ =>
    let (value, at_) ← either sight fuel first words
    match at_ with
    | word :: _ :: _ =>
      throw ((if word.isEmpty then "" else word.toText ++ ": ") ++ "unexpected operator")
    | _ => return value

end CodeJudge.Shell.Condition
