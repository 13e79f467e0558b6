import CodeJudge.Shell.Octets

/-!
# Numbers with a fraction

Reading decimal numbers into binary floating point, and writing a floating point number with a given
number of digits. What is written is the exact value rounded once, a tie to the even digit, so the
digits do not hang on how a machine would divide.
-/

namespace CodeJudge.Shell.Real

/-- A floating point number taken apart. -/
inductive Parts
  | notANumber
  | infinite (negative : Bool)
  /-- The value is `numerator / denominator`. -/
  | finite (negative : Bool) (numerator denominator : Nat)
  deriving DecidableEq, Repr

/-- Takes a floating point number apart. -/
def Parts.ofFloat (x : Float) : Parts :=
  let bits := x.toBits.toNat
  let negative := bits / Nat.pow 2 63 = 1
  let exponent := bits / Nat.pow 2 52 % 2048
  let fraction := bits % Nat.pow 2 52
  if exponent = 2047 then if fraction = 0 then .infinite negative else .notANumber
  else
    let mantissa := if exponent = 0 then fraction else fraction + Nat.pow 2 52
    let scale := max exponent 1
    if scale ≥ 1075 then .finite negative (mantissa * Nat.pow 2 (scale - 1075)) 1
    else .finite negative mantissa (Nat.pow 2 (1075 - scale))

/-- A quotient rounded to the nearest whole number, a tie to the even one. -/
def rounded (numerator denominator : Nat) : Nat :=
  let whole := numerator / denominator
  let twice := 2 * (numerator % denominator)
  if twice < denominator then whole
  else if denominator < twice then whole + 1
  else whole + whole % 2

/-- Digits with a point before the last `places` of them; without a point if there are none. -/
def pointed (places : Nat) (n : Nat) : Octets :=
  let digits := Decimal.digits n
  let digits := List.replicate (places + 1 - digits.length) '0' ++ digits
  let whole := digits.take (digits.length - places)
  if places = 0 then whole else whole ++ '.' :: digits.drop (digits.length - places)

/-- A quotient with a fixed number of places. -/
def fixed (places numerator denominator : Nat) : Octets :=
  pointed places (rounded (numerator * Nat.pow 10 places) denominator)

/-- The digits of a quotient before and after the point, and the power of ten that goes with them. -/
def scaled (places numerator denominator : Nat) : Nat × Int :=
  if numerator = 0 then (0, 0)
  else
    let estimate : Int := (Decimal.digits numerator).length - (Decimal.digits denominator).length
    let below (power : Int) : Bool :=
      if power ≥ 0 then numerator < denominator * Nat.pow 10 power.toNat
      else numerator * Nat.pow 10 (-power).toNat < denominator
    let power := if below estimate then estimate - 1 else estimate
    let shift : Int := places - power
    let n :=
      if shift ≥ 0 then rounded (numerator * Nat.pow 10 shift.toNat) denominator
      else rounded numerator (denominator * Nat.pow 10 (-shift).toNat)
    if n ≥ Nat.pow 10 (places + 1) then (n / 10, power + 1) else (n, power)

/-- A power of ten behind its letter, with a sign and two digits or more. -/
def exponent (power : Int) : Octets :=
  let digits := Decimal.digits power.natAbs
  'e' :: (if power < 0 then '-' else '+') :: (if digits.length < 2 then '0' :: digits else digits)

/-- A quotient as one digit before the point and a power of ten. -/
def scientific (places numerator denominator : Nat) : Octets :=
  let (n, power) := scaled places numerator denominator
  pointed places n ++ exponent power

/-- Takes off the zeros at the end of a fraction, and the point if nothing is left behind it. -/
def trimmed (text : Octets) : Octets :=
  if text.contains '.' then
    match text.reverse.dropWhile (· = '0') with
    | '.' :: rest => rest.reverse
    | kept => kept.reverse
  else text

/-- A quotient with a number of significant digits, in the shorter of the two forms. -/
def general (digits numerator denominator : Nat) : Octets :=
  let digits := max digits 1
  let (n, power) := scaled (digits - 1) numerator denominator
  if -4 ≤ power && power < digits then
    trimmed (fixed (digits - 1 - power).toNat numerator denominator)
  else trimmed (pointed (digits - 1) n) ++ exponent power

/-- The number at the front of a text, and the rest; none if there is no number. -/
def read? (text : Octets) : Option (Float × Octets) :=
  let text := text.dropWhile fun c => c = ' ' || ('\t' ≤ c && c ≤ '\r')
  let (negative, text) : Bool × Octets := match text with
    | '-' :: rest => (true, rest)
    | '+' :: rest => (false, rest)
    | _ => (false, text)
  let signed (x : Float) : Float := if negative then -x else x
  let lower := text.map Char.toLower
  if "infinity".toList.isPrefixOf lower then some (signed (1.0 / 0.0), text.drop 8)
  else if "inf".toList.isPrefixOf lower then some (signed (1.0 / 0.0), text.drop 3)
  else if "nan".toList.isPrefixOf lower then some (0.0 / 0.0, text.drop 3)
  else
    let whole := text.takeWhile Char.isDigit
    let rest := text.drop whole.length
    let (fraction, rest) : Octets × Octets := match rest with
      | '.' :: rest => (rest.takeWhile Char.isDigit, rest.dropWhile Char.isDigit)
      | _ => ([], rest)
    if whole.isEmpty && fraction.isEmpty then none
    else
      let (power, rest) : Int × Octets := match rest with
        | 'e' :: after | 'E' :: after =>
          let sign := after.head? = some '-'
          let after' := match after with
            | '-' :: digits | '+' :: digits => digits
            | digits => digits
          let digits := after'.takeWhile Char.isDigit
          match Decimal.readNat? digits with
          | some n => (if sign then -(n : Int) else n, after'.drop digits.length)
          | none => (0, rest)
        | _ => (0, rest)
      let mantissa := (Decimal.readNat? (whole ++ fraction)).getD 0
      let power := min (max (power - fraction.length) (-5000)) 5000
      some (signed (Float.ofScientific mantissa (power < 0) power.natAbs), rest)

end CodeJudge.Shell.Real
