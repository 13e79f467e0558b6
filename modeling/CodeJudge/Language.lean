import CodeJudge.Verdict
import CodeJudge.Text.Blank

/-!
# Languages

The closed set of languages that a worker accepts, with their codes, their names, and the spellings
by which a submission may name them.
-/

namespace CodeJudge

/-- A language that submissions are written in. -/
inductive Language
  | go
  | java
  | cpp
  | python
  deriving DecidableEq, Repr

namespace Language

/-- Every language, in the order of the codes. -/
def all : List Language := [go, java, cpp, python]

/-- The code of a language. -/
def code : Language → Int
  | go => 0
  | java => 1
  | cpp => 2
  | python => 3

/-- The name shown to people, and kept with a submission. -/
def name : Language → String
  | go => "Go"
  | java => "Java"
  | cpp => "C++"
  | python => "Python"

/-- The spellings of a language, in small letters. -/
def spellings : Language → List String
  | go => ["go", "golang"]
  | java => ["java"]
  | cpp => ["c++", "cpp"]
  | python => ["python", "python3"]

/-- The language that a text names: blanks around it do not count, nor does the case of ASCII
letters. -/
def parse? (text : String) : Option Language :=
  let key := String.ofList ((Blank.trim text.toList).map Blank.lowerAscii)
  all.find? fun language => language.spellings.contains key

/-- The name of a language is one of its spellings. -/
@[simp]
theorem parse?_name (language : Language) : parse? language.name = some language := by
  cases language <;> decide

/-- What is said of a text that names no language. The text is shown as it was given. -/
def unsupported (text : String) : String := "unsupported language: " ++ text

/-- The language that a code stands for. -/
def ofCode? (code : Int) : Option Language :=
  all.find? (·.code == code)

/-- The code of a language stands for it. -/
@[simp]
theorem ofCode?_code (language : Language) : ofCode? language.code = some language := by
  cases language <;> rfl

/-- The language that a code stands for, or what is wrong with the code. -/
def ofCode (code : Int) : Except UnknownCode Language :=
  match ofCode? code with
  | some language => .ok language
  | none => .error ⟨"language", code⟩

/-- A language is written as its code. -/
def toJson (language : Language) : Json.Value := .int language.code

/-- Reads a language from its code, a signed number of 32 bits. -/
def decode : Json.Decoder Language := fun tree => do
  let code ← Json.integer Decimal.int32 tree
  match ofCode? code with
  | some language => return language
  | none => throw (.unknownCode "language" code)

end Language

end CodeJudge
