import CodeJudge.Job

/-!
# Jobs on the wire

The JSON form of jobs and results. Verdicts and languages travel as their codes; a result without
output is written without the field.
-/

namespace CodeJudge

open Json (Value Field Record Decoder)

/-- A job is written as an object of all its fields. -/
def Job.toJson (job : Job) : Value :=
  .object [
    ("user_id", .int job.user.toInt),
    ("language", job.language.toJson),
    ("code", .string job.source),
    ("input", .strings job.inputs),
    ("expected", .strings job.expected),
    ("time_limit", .int job.timeLimit.toInt),
    ("memory_limit", .int job.memoryLimit.toInt),
    ("total_num", .int job.total.toInt)]

/-- The fields of a job. -/
def Job.record :=
  (Record.also (Field.record { name := "user_id", decode := Json.int64 })
  (Record.also (Field.record { name := "language", decode := Language.decode })
  (Record.also (Field.record { name := "code", decode := Json.text })
  (Record.also (Field.record { name := "input", decode := Json.list Json.text })
  (Record.also (Field.record { name := "expected", decode := Json.list Json.text })
  (Record.also (Field.record { name := "time_limit", decode := Json.int32 })
  (Record.also (Field.record { name := "memory_limit", decode := Json.int32 })
  (Field.record { name := "total_num", decode := Json.int32 })))))))).map
    fun (user, language, source, inputs, expected, timeLimit, memoryLimit, total) =>
      ({ user, language, source, inputs, expected, timeLimit, memoryLimit, total } : Job)

/-- Reads a job. -/
def Job.decode : Decoder Job := Job.record.decode

/-- A result is written as an object of its fields. -/
def JobResult.toJson (result : JobResult) : Value :=
  .object <| [
    ("user_id", .int result.user.toInt),
    ("status", result.verdict.toJson),
    ("pass_num", .int result.passed.toInt),
    ("total_num", .int result.total.toInt),
    ("memory_usage", .int result.memory.toInt),
    ("runtime", .int result.runtime.toInt)]
    ++ match result.output with
      | none => []
      | some output => [("output", .string output)]

/-- The fields of a result. The output may be missing in either form. -/
def JobResult.record :=
  (Record.also (Field.record { name := "user_id", decode := Json.int64 })
  (Record.also (Field.record { name := "status", decode := Verdict.decode })
  (Record.also (Field.record { name := "pass_num", decode := Json.int32 })
  (Record.also (Field.record { name := "total_num", decode := Json.int32 })
  (Record.also (Field.record { name := "memory_usage", decode := Json.int32 })
  (Record.also (Field.record { name := "runtime", decode := Json.int32 })
  (Field.record {
    name := "output", decode := Json.optional Json.text
    absent := some none, cut := some none }))))))).map
    fun (user, verdict, passed, total, memory, runtime, output) =>
      ({ user, verdict, passed, total, memory, runtime, output } : JobResult)

/-- Reads a result. -/
def JobResult.decode : Decoder JobResult := JobResult.record.decode

end CodeJudge
