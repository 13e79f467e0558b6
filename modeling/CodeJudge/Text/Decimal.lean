/-!
# Whole numbers as text

Decimal digits of a number, and reading them back with the bounds of the place that the number is
for. Reading never wraps: a number outside the bounds is no number.
-/

namespace CodeJudge.Decimal

/-- The character of a digit below ten. -/
def digit (n : Nat) : Char := Char.ofNat (48 + n)

/-- The value of a decimal digit. -/
def value? (c : Char) : Option Nat :=
  if '0' ≤ c && c ≤ '9' then some (c.toNat - 48) else none

/-- The digits of a number, without leading zeros. -/
def digits (n : Nat) : List Char :=
  if n < 10 then [digit n] else digits (n / 10) ++ [digit (n % 10)]
termination_by n

/-- The digits of a number, behind a minus sign when it is negative. -/
def render (n : Int) : List Char :=
  if n < 0 then '-' :: digits n.natAbs else digits n.natAbs

/-- Goes on reading digits from the value `sum` of those already read. -/
def readFrom (sum : Nat) : List Char → Option Nat
  | [] => some sum
  | c :: rest => (value? c).bind fun d => readFrom (sum * 10 + d) rest

/-- The number that a non-empty run of digits denotes. -/
def readNat? : List Char → Option Nat
  | [] => none
  | text => readFrom 0 text

/-- The number that digits with an optional sign denote. -/
def readInt? : List Char → Option Int
  | '-' :: rest => (readNat? rest).map fun n => -(n : Int)
  | '+' :: rest => (readNat? rest).map fun n => (n : Int)
  | text => (readNat? text).map fun n => (n : Int)

/-- A range of whole numbers that a field can hold. -/
structure Bounds where
  least : Int
  greatest : Int

/-- Signed numbers of 64 bits. -/
def int64 : Bounds := ⟨-9223372036854775808, 9223372036854775807⟩
/-- Signed numbers of 32 bits. -/
def int32 : Bounds := ⟨-2147483648, 2147483647⟩
/-- Unsigned numbers of 64 bits. -/
def uint64 : Bounds := ⟨0, 18446744073709551615⟩
/-- Unsigned numbers of 32 bits. -/
def uint32 : Bounds := ⟨0, 4294967295⟩
/-- Unsigned numbers of 16 bits. -/
def uint16 : Bounds := ⟨0, 65535⟩

/-- The number itself when it lies within the bounds. -/
def Bounds.admit? (bounds : Bounds) (n : Int) : Option Int :=
  if bounds.least ≤ n ∧ n ≤ bounds.greatest then some n else none

/-- The nearest number within the bounds. -/
def Bounds.clamp (bounds : Bounds) (n : Int) : Int :=
  max bounds.least (min n bounds.greatest)

end CodeJudge.Decimal
