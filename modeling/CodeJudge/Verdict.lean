import CodeJudge.Json.Decoder

/-!
# Verdicts

The seven ways a judged submission can end, with the code that stands for each on the wire and in
the store, and the name shown to people.
-/

namespace CodeJudge

/-- A number that names no member of an enumeration. -/
structure UnknownCode where
  enumeration : String
  code : Int
  deriving DecidableEq, Repr

/-- What is said of an unknown code. -/
def UnknownCode.message (unknown : UnknownCode) : String :=
  (Json.DecodeError.unknownCode unknown.enumeration unknown.code).message

/-- How a judged submission ended. -/
inductive Verdict
  | accepted
  | wrongAnswer
  | compileError
  | timeLimitExceeded
  | runtimeError
  | memoryLimitExceeded
  | systemError
  deriving DecidableEq, Repr

namespace Verdict

/-- Every verdict, in the order of the codes. -/
def all : List Verdict :=
  [accepted, wrongAnswer, compileError, timeLimitExceeded, runtimeError, memoryLimitExceeded,
    systemError]

/-- The code of a verdict. -/
def code : Verdict → Int
  | accepted => 0
  | wrongAnswer => 1
  | compileError => 2
  | timeLimitExceeded => 3
  | runtimeError => 4
  | memoryLimitExceeded => 5
  | systemError => 6

/-- The name shown to people. -/
def name : Verdict → String
  | accepted => "Accepted"
  | wrongAnswer => "Wrong Answer"
  | compileError => "Compilation Error"
  | timeLimitExceeded => "Time Limit Exceeded"
  | runtimeError => "Runtime Error"
  | memoryLimitExceeded => "Memory Limit Exceeded"
  | systemError => "System Error"

/-- The verdict that a code stands for. -/
def ofCode? (code : Int) : Option Verdict :=
  all.find? (·.code == code)

/-- The code of a verdict stands for it. -/
@[simp]
theorem ofCode?_code (verdict : Verdict) : ofCode? verdict.code = some verdict := by
  cases verdict <;> rfl

/-- The verdict that a code stands for, or what is wrong with the code. -/
def ofCode (code : Int) : Except UnknownCode Verdict :=
  match ofCode? code with
  | some verdict => .ok verdict
  | none => .error ⟨"verdict", code⟩

/-- A verdict is written as its code. -/
def toJson (verdict : Verdict) : Json.Value := .int verdict.code

/-- Reads a verdict from its code, a signed number of 32 bits. -/
def decode : Json.Decoder Verdict := fun tree => do
  let code ← Json.integer Decimal.int32 tree
  match ofCode? code with
  | some verdict => return verdict
  | none => throw (.unknownCode "verdict" code)

end Verdict

end CodeJudge
