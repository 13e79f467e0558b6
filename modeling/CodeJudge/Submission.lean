import CodeJudge.Language

/-!
# Submissions

What a user hands in: a program for a problem, in a language named in the user's own spelling.
-/

namespace CodeJudge

open Json (Value Field Record Decoder)

/-- A submission as it is handed in. -/
structure Submission where
  user : Int64
  problem : Int64
  language : String
  source : String
  deriving DecidableEq, Repr

/-- A submission is written as an object of its fields. -/
def Submission.toJson (submission : Submission) : Value :=
  .object [
    ("user_id", .int submission.user.toInt),
    ("problem_id", .int submission.problem.toInt),
    ("language", .string submission.language),
    ("source_code", .string submission.source)]

/-- The fields of a submission. -/
def Submission.record :=
  (Record.also (Field.record { name := "user_id", decode := Json.int64 })
  (Record.also (Field.record { name := "problem_id", decode := Json.int64 })
  (Record.also (Field.record { name := "language", decode := Json.text })
  (Field.record { name := "source_code", decode := Json.text })))).map
    fun (user, problem, language, source) =>
      ({ user, problem, language, source } : Submission)

/-- Reads a submission. -/
def Submission.decode : Decoder Submission := Submission.record.decode

end CodeJudge
