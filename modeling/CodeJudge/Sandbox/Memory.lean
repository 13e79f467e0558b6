import CodeJudge.Text.Blank
import CodeJudge.Text.Decimal

/-!
# Resident memory

The resident set of the worker as its status text gives it, and the growth between two readings.
-/

namespace CodeJudge.Sandbox.Memory

/-- The label of the line that holds the resident set, in KiB. -/
def label : List Char := ['V', 'm', 'R', 'S', 'S', ':']

/-- The number on the first line that begins with the label: its first word. There is none when no
line does, when the line holds no word, or when the word is no signed number of 64 bits. -/
def resident? (status : String) : Option Int := do
  let line ← (Blank.lines status.toList).find? label.isPrefixOf
  let word ← Blank.firstWord? (line.drop label.length)
  let n ← Decimal.readInt? word
  Decimal.int64.admit? n

/-- The growth between two readings; none when either is missing. -/
def growth : Option Int → Option Int → Int
  | some before, some after => after - before
  | _, _ => 0

end CodeJudge.Sandbox.Memory
