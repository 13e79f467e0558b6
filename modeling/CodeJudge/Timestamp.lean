import CodeJudge.Text.Decimal

/-!
# Timestamps

A moment as text: the date of the civil calendar, the time of the day to the millisecond, and the
letter for the zero meridian, as in 2024-01-02T03:04:05.678Z.
-/

namespace CodeJudge

/-- A day of the civil calendar. -/
structure CivilDay where
  year : Nat
  month : Nat
  day : Nat
  deriving DecidableEq, Repr

/-- The day that comes so many days after the first of January 1970. Years are counted from March
here, so that the day added in leap years is the last one of its year. -/
def CivilDay.ofDays (days : Nat) : CivilDay :=
  let shifted := days + 719468
  let era := shifted / 146097
  let ofEra := shifted % 146097
  let yearOfEra := (ofEra - ofEra / 1460 + ofEra / 36524 - ofEra / 146096) / 365
  let ofYear := ofEra - (365 * yearOfEra + yearOfEra / 4 - yearOfEra / 100)
  let fromMarch := (5 * ofYear + 2) / 153
  let month := if fromMarch < 10 then fromMarch + 3 else fromMarch - 9
  { year := yearOfEra + era * 400 + if month ≤ 2 then 1 else 0
    month
    day := ofYear - (153 * fromMarch + 2) / 5 + 1 }

namespace Timestamp

/-- The digits of a number, with zeros before them up to a width. -/
def padded (width n : Nat) : List Char :=
  let digits := Decimal.digits n
  List.replicate (width - digits.length) '0' ++ digits

/-- The timestamp of the moment that comes so many milliseconds after the beginning of 1970. -/
def ofMilliseconds (n : Nat) : String :=
  let day := CivilDay.ofDays (n / 86400000)
  let rest := n % 86400000
  String.ofList <|
    padded 4 day.year ++ '-' :: padded 2 day.month ++ '-' :: padded 2 day.day
      ++ 'T' :: padded 2 (rest / 3600000) ++ ':' :: padded 2 (rest / 60000 % 60)
      ++ ':' :: padded 2 (rest / 1000 % 60) ++ '.' :: padded 3 (rest % 1000) ++ ['Z']

/-- Whether a text has the form of a timestamp; a zero stands for any digit. -/
def isWellFormed (text : String) : Bool :=
  let form := "0000-00-00T00:00:00.000Z".toList
  text.toList.length = form.length
    && (text.toList.zip form).all fun (c, expected) =>
      if expected = '0' then (Decimal.value? c).isSome else c = expected

end Timestamp

end CodeJudge
