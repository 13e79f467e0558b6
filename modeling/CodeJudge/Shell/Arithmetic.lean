import CodeJudge.Shell.Token

/-!
# Shell arithmetic

Expressions over signed words of 64 bits, with the operators of C. A name stands for the value of the
variable, zero if it has none, and an assignment changes it. What an operator does not need (behind `&&`,
`||` and `?`) is read and has no value: it changes nothing and cannot fail for its value.

An expression gets its value as it is read, from left to right. So of two faults the one that a reader
meets first is told, be it one of grammar or of value.
-/

namespace CodeJudge.Shell.Arithmetic

/-- The values of the variables. -/
abbrev Variables := List (Octets × Octets)

/-- Why an expression has no value. -/
inductive Fault
  /-- The value of a variable is no number. -/
  | illegal (text : Octets)
  /-- A variable that is assigned to must not change. -/
  | constant (name : Octets)
  | divisionByZero
  /-- The expression cannot go on as it does. -/
  | expecting (what : String)
  deriving DecidableEq, Repr

/-- How a fault of an expression is told. -/
def Fault.message (expression : Octets) : Fault → String
  | .illegal text => "Illegal number: " ++ text.toText
  | .constant name => name.toText ++ ": is read only"
  | .divisionByZero => about "division by zero"
  | .expecting what => about ("expecting " ++ what)
where
  /-- A message with the expression that it is about. -/
  about (message : String) : String :=
    "arithmetic expression: " ++ message ++ ": \"" ++ expression.toText ++ "\""

/-- A number brought into the range of signed words of 64 bits. -/
def wrap (n : Int) : Int := (Int64.ofInt n).toInt

/-- A number as it is read: one beyond the range of signed words is the last one within it. -/
def clamp (n : Int) : Int := Decimal.int64.clamp n

/-- Passes over blanks. -/
def skip (text : Octets) : Octets := text.dropWhile fun c => c = ' ' || c = '\t' || c = '\n'

/-- The value of a truth. -/
def ofBool (b : Bool) : Int := if b then 1 else 0

/-- The value of an operation with a binary operator. -/
def apply (operator : String) (a b : Int) : Except Fault Int :=
  match operator with
  | "+" => .ok (wrap (a + b))
  | "-" => .ok (wrap (a - b))
  | "*" => .ok (wrap (a * b))
  | "/" => if b = 0 then .error .divisionByZero else .ok (wrap (a.tdiv b))
  | "%" => if b = 0 then .error .divisionByZero else .ok (a.tmod b)
  | "<<" => .ok (wrap (a * Int.pow 2 (b % 64).toNat))
  | ">>" => .ok (a.fdiv (Int.pow 2 (b % 64).toNat))
  | "&" => .ok ((Int64.ofInt a) &&& (Int64.ofInt b)).toInt
  | "|" => .ok ((Int64.ofInt a) ||| (Int64.ofInt b)).toInt
  | "^" => .ok ((Int64.ofInt a) ^^^ (Int64.ofInt b)).toInt
  | "==" => .ok (ofBool (a = b))
  | "!=" => .ok (ofBool (a ≠ b))
  | "<" => .ok (ofBool (a < b))
  | "<=" => .ok (ofBool (a ≤ b))
  | ">" => .ok (ofBool (a > b))
  | _ => .ok (ofBool (a ≥ b))

/-- The value of a digit in the bases up to sixteen. -/
def digit? (c : Char) : Option Nat :=
  if c.isDigit then some (c.toNat - 48)
  else if 'a' ≤ c && c ≤ 'f' then some (c.toNat - 87)
  else if 'A' ≤ c && c ≤ 'F' then some (c.toNat - 55)
  else none

/-- The number of a run of digits in a base. -/
def ofDigits (base : Nat) (digits : Octets) : Nat :=
  digits.foldl (fun sum c => sum * base + (digit? c).getD 0) 0

/-- Takes a number: hexadecimal, octal or decimal by how it begins. -/
def literal (text : Octets) : Int × Octets :=
  match text with
  | '0' :: 'x' :: rest | '0' :: 'X' :: rest =>
    let digits := rest.takeWhile fun c => (digit? c).isSome
    if digits.isEmpty then (0, text.drop 1) else (ofDigits 16 digits, rest.drop digits.length)
  | '0' :: rest =>
    let digits := rest.takeWhile fun c => '0' ≤ c && c ≤ '7'
    (ofDigits 8 digits, rest.drop digits.length)
  | _ =>
    let digits := text.takeWhile Char.isDigit
    (ofDigits 10 digits, text.drop digits.length)

/-- The number that a text holds, with a sign and blanks around it. -/
def ofText? (text : Octets) : Option Int :=
  let trimmed := skip text
  let (negative, digits) : Bool × Octets := match trimmed with
    | '-' :: rest => (true, rest)
    | '+' :: rest => (false, rest)
    | _ => (false, trimmed)
  match digits with
  | c :: _ =>
    if c.isDigit then
      let (value, rest) := literal digits
      if (skip rest).isEmpty then some (clamp (if negative then -value else value)) else none
    else none
  | [] => none

/-- A token of an expression. -/
inductive Sign
  | number (value : Int)
  | name (text : Octets)
  | operator (text : String)
  /-- A character that begins no token. -/
  | other
  deriving DecidableEq, Repr

/-- The operators, longer ones before their beginnings. -/
def operators : List String :=
  ["<<=", ">>=", "||", "&&", "==", "!=", "<=", ">=", "<<", ">>", "+=", "-=", "*=", "/=", "%=", "&=",
    "|=", "^=", "|", "^", "&", "<", ">", "+", "-", "*", "/", "%", "!", "~", "(", ")", "?", ":", "="]

/-- How tightly a binary operator binds. -/
def strength? : String → Option Nat
  | "*" | "/" | "%" => some 8
  | "+" | "-" => some 7
  | "<<" | ">>" => some 6
  | "<" | "<=" | ">" | ">=" => some 5
  | "==" | "!=" => some 4
  | "&" => some 3
  | "^" => some 2
  | "|" => some 1
  | _ => none

/-- The binary operator of an operator that assigns; the empty text for a plain assignment. -/
def assigning? (text : String) : Option String :=
  if ["=", "<<=", ">>=", "+=", "-=", "*=", "/=", "%=", "&=", "|=", "^="].contains text then
    some (text.dropEnd 1).toString
  else none

/-- The tokens of an expression. -/
def signs : Nat → Octets → List Sign
  | 0, _ => []
  | fuel + 1, text =>
    match skip text with
    | [] => []
    | c :: rest =>
      if c.isDigit then
        let (value, rest) := literal (c :: rest)
        .number (clamp value) :: signs fuel rest
      else if Lexer.isNameStart c then
        .name (c :: rest.takeWhile Lexer.isNamePart) :: signs fuel (rest.dropWhile Lexer.isNamePart)
      else
        match operators.find? fun operator => operator.toList.isPrefixOf (c :: rest) with
        | some operator => .operator operator :: signs fuel ((c :: rest).drop operator.length)
        | none => .other :: signs fuel rest

/-- Reads a value from the front of an expression. -/
abbrev Reader := Variables → List Sign → Except Fault (Int × Variables × List Sign)

/-- The value of a variable. -/
def valueOf (bindings : Variables) (name : Octets) : Except Fault Int :=
  let text := (bindings.lookup name).getD []
  if (skip text).isEmpty then .ok 0
  else
    match ofText? text with
    | some value => .ok value
    | none => .error (.illegal text)

/-- What is read. -/
structure Scope where
  /-- The variables that must not change. -/
  constants : List Octets
  /-- Whether it is to have a value. -/
  needed : Bool := true

/-- What is read is to have a value only if a condition holds. -/
def Scope.when (scope : Scope) (condition : Bool) : Scope :=
  { scope with needed := scope.needed && condition }

mutual

/-- Takes an assignment, or a value that is chosen. -/
def assignment (scope : Scope) : Nat → Reader
  | 0, _, _ => .error (.expecting "primary")
  | fuel + 1, bindings, signs => do
    match signs with
    | .name name :: .operator operator :: rest =>
      match assigning? operator with
      | none => choice scope fuel bindings signs
      | some operator =>
        let (right, bindings, rest) ← assignment scope fuel bindings rest
        if !scope.needed then return (right, bindings, rest)
        if scope.constants.contains name then throw (.constant name)
        let value ← if operator.isEmpty then pure right else apply operator (← valueOf bindings name) right
        return (value, (name, Octets.ofInt value) :: bindings.filter (·.1 != name), rest)
    | _ => choice scope fuel bindings signs

/-- Takes a value that may be chosen by a condition. -/
def choice (scope : Scope) : Nat → Reader
  | 0, _, _ => .error (.expecting "primary")
  | fuel + 1, bindings, signs => do
    let (condition, bindings, rest) ← either scope fuel bindings signs
    match rest with
    | .operator "?" :: rest =>
      let (yes, bindings, rest) ← assignment (scope.when (condition ≠ 0)) fuel bindings rest
      match rest with
      | .operator ":" :: rest =>
        let (no, bindings, rest) ← choice (scope.when (condition = 0)) fuel bindings rest
        return (if condition ≠ 0 then yes else no, bindings, rest)
      | _ => throw (.expecting "':'")
    | _ => return (condition, bindings, rest)

/-- Takes truths joined by `||`. -/
def either (scope : Scope) : Nat → Reader
  | 0, _, _ => .error (.expecting "primary")
  | fuel + 1, bindings, signs => do
    let (left, bindings, rest) ← both scope fuel bindings signs
    match rest with
    | .operator "||" :: rest =>
      let (right, bindings, rest) ← either (scope.when (left = 0)) fuel bindings rest
      return (ofBool (left ≠ 0 || right ≠ 0), bindings, rest)
    | _ => return (left, bindings, rest)

/-- Takes truths joined by `&&`. -/
def both (scope : Scope) : Nat → Reader
  | 0, _, _ => .error (.expecting "primary")
  | fuel + 1, bindings, signs => do
    let (left, bindings, rest) ← binary scope 1 fuel bindings signs
    match rest with
    | .operator "&&" :: rest =>
      let (right, bindings, rest) ← both (scope.when (left ≠ 0)) fuel bindings rest
      return (ofBool (left ≠ 0 && right ≠ 0), bindings, rest)
    | _ => return (left, bindings, rest)

/-- Takes values joined by operators that bind at least so tightly. -/
def binary (scope : Scope) (least : Nat) : Nat → Reader
  | 0, _, _ => .error (.expecting "primary")
  | fuel + 1, bindings, signs => do
    let (value, bindings, rest) ← primary scope fuel bindings signs
    climb scope least value fuel bindings rest

/-- Goes on with the operators behind a value. -/
def climb (scope : Scope) (least : Nat) (value : Int) : Nat → Reader
  | 0, _, _ => .error (.expecting "primary")
  | fuel + 1, bindings, signs => do
    match signs with
    | .operator operator :: rest =>
      match strength? operator with
      | none => return (value, bindings, signs)
      | some strength =>
        if strength < least then return (value, bindings, signs)
        let (right, bindings, rest) ← binary scope (strength + 1) fuel bindings rest
        let result ← if scope.needed then apply operator value right else pure right
        climb scope least result fuel bindings rest
    | _ => return (value, bindings, signs)

/-- Takes a value: a number, a variable, or something in parentheses, with signs before it. -/
def primary (scope : Scope) : Nat → Reader
  | 0, _, _ => .error (.expecting "primary")
  | fuel + 1, bindings, signs => do
    match signs with
    | .number value :: rest => return (value, bindings, rest)
    | .name name :: rest =>
      let value ← if scope.needed then valueOf bindings name else pure 0
      return (value, bindings, rest)
    | .operator "(" :: rest =>
      let (value, bindings, rest) ← assignment scope fuel bindings rest
      match rest with
      | .operator ")" :: rest => return (value, bindings, rest)
      | _ => throw (.expecting "')'")
    | .operator "+" :: rest => primary scope fuel bindings rest
    | .operator "-" :: rest =>
      let (value, bindings, rest) ← primary scope fuel bindings rest
      return (wrap (-value), bindings, rest)
    | .operator "!" :: rest =>
      let (value, bindings, rest) ← primary scope fuel bindings rest
      return (ofBool (value = 0), bindings, rest)
    | .operator "~" :: rest =>
      let (value, bindings, rest) ← primary scope fuel bindings rest
      return (-value - 1, bindings, rest)
    | _ => throw (.expecting "primary")

end

/-- The value of a whole expression, and the variables after it. -/
def evaluate (constants : List Octets) (bindings : Variables) (text : Octets) :
    Except Fault (Int × Variables) := do
  let signs := signs (text.length + 1) text
  let (value, bindings, rest) ← assignment { constants } (signs.length * 8 + 8) bindings signs
  if rest.isEmpty then return (value, bindings) else throw (.expecting "EOF")

end CodeJudge.Shell.Arithmetic
