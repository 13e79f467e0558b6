import CodeJudge.Job.Wire
import CodeJudge.Proofs.Json.Decoder

/-!
# Jobs read back

A job has many texts. One is any closed object that names every field once, in whatever order and among
whatever other members; another is a closed array of the fields in their order. Of a result the output may be
missing from either, and in an object it may be `null` (`Job.Written`, `JobResult.Written`). There are no
others (`Job.decode_iff`, `JobResult.decode_iff`).

**The law** (`wire_round_trip`). What is written of a job or a result is one of its texts, so no field is
lost or changed on the wire; and a value that was read from any of its texts is read again from what is
written of it.

**What it does not establish.** Whether a text is JSON at all, and what tree it has, is the syntax of
`CodeJudge.Json.Token` and `CodeJudge.Json.Tree`, which the law takes as it is.
-/

namespace CodeJudge

open Json (Record Value Tree Field)

theorem Verdict.decode_tree (verdict : Verdict) : Verdict.decode verdict.toJson.tree = .ok verdict := by
  have least : (-2147483648 : Int) ≤ verdict.code := by cases verdict <;> decide
  have greatest : verdict.code ≤ (2147483647 : Int) := by cases verdict <;> decide
  have read : Json.integer Decimal.int32 verdict.toJson.tree = .ok verdict.code :=
    Json.integer_tree least greatest
  simp only [decode, read, bind, Except.bind, ofCode?_code]
  rfl

theorem Language.decode_tree (language : Language) :
    Language.decode language.toJson.tree = .ok language := by
  have least : (-2147483648 : Int) ≤ language.code := by cases language <;> decide
  have greatest : language.code ≤ (2147483647 : Int) := by cases language <;> decide
  have read : Json.integer Decimal.int32 language.toJson.tree = .ok language.code :=
    Json.integer_tree least greatest
  simp only [decode, read, bind, Except.bind, ofCode?_code]
  rfl

/-! ## Jobs -/

/-- **The trees of a job.** -/
inductive Job.Written (job : Job) : Tree → Prop
  /-- An object in which each field is given once. -/
  | object {members : List (Option String × Tree)} (labelled : ∀ member ∈ members, member.1 ≠ none)
    (user : Field.Given { name := "user_id", decode := Json.int64 } members job.user)
    (language : Field.Given { name := "language", decode := Language.decode } members job.language)
    (source : Field.Given { name := "code", decode := Json.text } members job.source)
    (inputs : Field.Given { name := "input", decode := Json.list Json.text } members job.inputs)
    (expected : Field.Given { name := "expected", decode := Json.list Json.text } members job.expected)
    (timeLimit : Field.Given { name := "time_limit", decode := Json.int32 } members job.timeLimit)
    (memoryLimit : Field.Given { name := "memory_limit", decode := Json.int32 } members job.memoryLimit)
    (total : Field.Given { name := "total_num", decode := Json.int32 } members job.total) :
    Written job (.object members true)
  /-- An array of the fields. -/
  | array {user language source inputs expected timeLimit memoryLimit total : Tree}
    (user_ : Json.int64 user = .ok job.user)
    (language_ : Language.decode language = .ok job.language)
    (source_ : Json.text source = .ok job.source)
    (inputs_ : Json.list Json.text inputs = .ok job.inputs)
    (expected_ : Json.list Json.text expected = .ok job.expected)
    (timeLimit_ : Json.int32 timeLimit = .ok job.timeLimit)
    (memoryLimit_ : Json.int32 memoryLimit = .ok job.memoryLimit)
    (total_ : Json.int32 total = .ok job.total) :
    Written job (.array [user, language, source, inputs, expected, timeLimit, memoryLimit, total] true)

/-- **A tree is decoded as a job where it is one of its trees.** -/
theorem Job.decode_iff {root : Tree} {job : Job} : Job.decode root = .ok job ↔ job.Written root := by
  rw [decode, record, Record.decode_iff]
  simp only [Record.reads_map, Record.lists_map, Prod.exists]
  constructor
  · rintro (⟨members, rfl, _, _, _, _, _, _, _, _, reads, rfl⟩ |
      ⟨trees, rfl, _, _, _, _, _, _, _, _, lists, rfl⟩)
    · have labelled := reads.labelled
      simp (disch := decide) only [Record.reads_also, Record.reads_field labelled] at reads
      obtain ⟨user, language, source, inputs, expected, timeLimit, memoryLimit, total⟩ := reads
      exact .object labelled user language source inputs expected timeLimit memoryLimit total
    · simp (disch := decide) only [Record.lists_also, Record.lists_field, reduceCtorEq, false_and,
        and_false, or_false] at lists
      obtain ⟨_, _, rfl, user, _, _, rfl, language, _, _, rfl, source, _, _, rfl, inputs, _, _, rfl,
        expected, _, _, rfl, timeLimit, _, _, rfl, memoryLimit, _, rfl, total⟩ := lists
      exact .array user language source inputs expected timeLimit memoryLimit total
  · rintro (⟨labelled, user, language, source, inputs, expected, timeLimit, memoryLimit, total⟩ |
      ⟨user, language, source, inputs, expected, timeLimit, memoryLimit, total⟩)
    · refine .inl ⟨_, rfl, _, _, _, _, _, _, _, _, ?_, rfl⟩
      simp (disch := decide) only [Record.reads_also, Record.reads_field labelled]
      exact ⟨user, language, source, inputs, expected, timeLimit, memoryLimit, total⟩
    · refine .inr ⟨_, rfl, _, _, _, _, _, _, _, _, ?_, rfl⟩
      simp (disch := decide) only [Record.lists_also, Record.lists_field, reduceCtorEq, false_and,
        and_false, or_false]
      exact ⟨_, _, rfl, user, _, _, rfl, language, _, _, rfl, source, _, _, rfl, inputs, _, _, rfl,
        expected, _, _, rfl, timeLimit, _, _, rfl, memoryLimit, _, rfl, total⟩

/-- What is written of a job is one of its trees. -/
theorem Job.written_tree (job : Job) : job.Written job.toJson.tree := by
  rw [toJson, Value.tree]
  refine .object ?_ (.once _ rfl (Json.int64_tree _)) (.once _ rfl (Language.decode_tree _))
    (.once _ rfl (Json.text_tree _)) (.once _ rfl (Json.list_text_tree _))
    (.once _ rfl (Json.list_text_tree _)) (.once _ rfl (Json.int32_tree _))
    (.once _ rfl (Json.int32_tree _)) (.once _ rfl (Json.int32_tree _))
  simp [Json.memberTrees]

/-- **A job that is written is read as the job.** -/
theorem Job.decodeBytes_render (job : Job) :
    Json.decodeBytes Job.decode (Utf8.encode job.toJson.render) = .ok job := by
  rw [Json.decodeBytes_render, decode_iff]
  exact job.written_tree

/-! ## Results -/

/-- **The trees of a result.** -/
inductive JobResult.Written (result : JobResult) : Tree → Prop
  /-- An object in which each field is given once, and the output at most once. -/
  | object {members : List (Option String × Tree)} (labelled : ∀ member ∈ members, member.1 ≠ none)
    (user : Field.Given { name := "user_id", decode := Json.int64 } members result.user)
    (verdict : Field.Given { name := "status", decode := Verdict.decode } members result.verdict)
    (passed : Field.Given { name := "pass_num", decode := Json.int32 } members result.passed)
    (total : Field.Given { name := "total_num", decode := Json.int32 } members result.total)
    (memory : Field.Given { name := "memory_usage", decode := Json.int32 } members result.memory)
    (runtime : Field.Given { name := "runtime", decode := Json.int32 } members result.runtime)
    (output : Field.Given {
      name := "output", decode := Json.optional Json.text
      absent := some none, cut := some none } members result.output) :
    Written result (.object members true)
  /-- An array of the fields. -/
  | array {user verdict passed total memory runtime output : Tree}
    (user_ : Json.int64 user = .ok result.user)
    (verdict_ : Verdict.decode verdict = .ok result.verdict)
    (passed_ : Json.int32 passed = .ok result.passed)
    (total_ : Json.int32 total = .ok result.total)
    (memory_ : Json.int32 memory = .ok result.memory)
    (runtime_ : Json.int32 runtime = .ok result.runtime)
    (output_ : Json.optional Json.text output = .ok result.output) :
    Written result (.array [user, verdict, passed, total, memory, runtime, output] true)
  /-- An array of the fields without the output. -/
  | short {user verdict passed total memory runtime : Tree}
    (user_ : Json.int64 user = .ok result.user)
    (verdict_ : Verdict.decode verdict = .ok result.verdict)
    (passed_ : Json.int32 passed = .ok result.passed)
    (total_ : Json.int32 total = .ok result.total)
    (memory_ : Json.int32 memory = .ok result.memory)
    (runtime_ : Json.int32 runtime = .ok result.runtime)
    (output : result.output = none) :
    Written result (.array [user, verdict, passed, total, memory, runtime] true)

/-- **A tree is decoded as a result where it is one of its trees.** -/
theorem JobResult.decode_iff {root : Tree} {result : JobResult} :
    JobResult.decode root = .ok result ↔ result.Written root := by
  rw [decode, record, Record.decode_iff]
  simp only [Record.reads_map, Record.lists_map, Prod.exists]
  constructor
  · rintro (⟨members, rfl, _, _, _, _, _, _, _, reads, rfl⟩ |
      ⟨trees, rfl, _, _, _, _, _, _, _, lists, rfl⟩)
    · have labelled := reads.labelled
      simp (disch := decide) only [Record.reads_also, Record.reads_field labelled] at reads
      obtain ⟨user, verdict, passed, total, memory, runtime, output⟩ := reads
      exact .object labelled user verdict passed total memory runtime output
    · simp (disch := decide) only [Record.lists_also, Record.lists_field, reduceCtorEq, false_and,
        and_false, or_false] at lists
      obtain ⟨_, _, rfl, user, _, _, rfl, verdict, _, _, rfl, passed, _, _, rfl, total, _, _, rfl, memory,
        _, _, rfl, runtime, ⟨_, rfl, output⟩ | ⟨rfl, output⟩⟩ := lists
      · exact .array user verdict passed total memory runtime output
      · exact .short user verdict passed total memory runtime (Option.some.inj output).symm
  · rintro (⟨labelled, user, verdict, passed, total, memory, runtime, output⟩ |
      ⟨user, verdict, passed, total, memory, runtime, output⟩ |
      ⟨user, verdict, passed, total, memory, runtime, output⟩)
    · refine .inl ⟨_, rfl, _, _, _, _, _, _, _, ?_, rfl⟩
      simp (disch := decide) only [Record.reads_also, Record.reads_field labelled]
      exact ⟨user, verdict, passed, total, memory, runtime, output⟩
    · refine .inr ⟨_, rfl, _, _, _, _, _, _, _, ?_, rfl⟩
      simp (disch := decide) only [Record.lists_also, Record.lists_field, reduceCtorEq, false_and,
        and_false, or_false]
      exact ⟨_, _, rfl, user, _, _, rfl, verdict, _, _, rfl, passed, _, _, rfl, total, _, _, rfl, memory,
        _, _, rfl, runtime, .inl ⟨_, rfl, output⟩⟩
    · refine .inr ⟨_, rfl, _, _, _, _, _, _, _, ?_, rfl⟩
      simp (disch := decide) only [Record.lists_also, Record.lists_field, reduceCtorEq, false_and,
        and_false, or_false]
      exact ⟨_, _, rfl, user, _, _, rfl, verdict, _, _, rfl, passed, _, _, rfl, total, _, _, rfl, memory,
        _, _, rfl, runtime, .inr ⟨rfl, congrArg some output.symm⟩⟩

/-- What is written of a result is one of its trees, whether or not it has an output. -/
theorem JobResult.written_tree (result : JobResult) : result.Written result.toJson.tree := by
  rw [toJson, Value.tree]
  cases given : result.output with
  | none =>
    refine .object ?_ (.once _ rfl (Json.int64_tree _)) (.once _ rfl (Verdict.decode_tree _))
      (.once _ rfl (Json.int32_tree _)) (.once _ rfl (Json.int32_tree _))
      (.once _ rfl (Json.int32_tree _)) (.once _ rfl (Json.int32_tree _)) (.absent rfl ?_)
    · simp [Json.memberTrees]
    · rw [given]
  | some output =>
    refine .object ?_ (.once _ rfl (Json.int64_tree _)) (.once _ rfl (Verdict.decode_tree _))
      (.once _ rfl (Json.int32_tree _)) (.once _ rfl (Json.int32_tree _))
      (.once _ rfl (Json.int32_tree _)) (.once _ rfl (Json.int32_tree _)) (.once _ rfl ?_)
    · simp [Json.memberTrees]
    · rw [given]
      rfl

/-- **A result that is written is read as the result.** -/
theorem JobResult.decodeBytes_render (result : JobResult) :
    Json.decodeBytes JobResult.decode (Utf8.encode result.toJson.render) = .ok result := by
  rw [Json.decodeBytes_render, decode_iff]
  exact result.written_tree

/-! ## The round trip -/

/-- **Reading and writing undo each other.** What is written of a job or a result is read as it, be it
text or bytes. What is read as a job or a result at all is any text whose tree is one of its trees, and
what is written of the value is read as the same value again. -/
theorem wire_round_trip :
    (∀ job : Job,
      Json.decodeText Job.decode job.toJson.render = .ok job ∧
      Json.decodeBytes Job.decode (Utf8.encode job.toJson.render) = .ok job) ∧
    (∀ result : JobResult,
      Json.decodeText JobResult.decode result.toJson.render = .ok result ∧
      Json.decodeBytes JobResult.decode (Utf8.encode result.toJson.render) = .ok result) ∧
    (∀ (text : String) (job : Job),
      (Json.decodeText Job.decode text = .ok job ↔
        ∃ root, Json.Document.ofText text = ⟨root, true⟩ ∧ job.Written root) ∧
      (Json.decodeText Job.decode text = .ok job →
        Json.decodeText Job.decode job.toJson.render = .ok job)) ∧
    ∀ (text : String) (result : JobResult),
      (Json.decodeText JobResult.decode text = .ok result ↔
        ∃ root, Json.Document.ofText text = ⟨root, true⟩ ∧ result.Written root) ∧
      (Json.decodeText JobResult.decode text = .ok result →
        Json.decodeText JobResult.decode result.toJson.render = .ok result) := by
  have job (job : Job) : Json.decodeText Job.decode job.toJson.render = .ok job := by
    rw [Json.decodeText_render, Job.decode_iff]
    exact job.written_tree
  have result (result : JobResult) :
      Json.decodeText JobResult.decode result.toJson.render = .ok result := by
    rw [Json.decodeText_render, JobResult.decode_iff]
    exact result.written_tree
  refine ⟨fun given => ⟨job given, given.decodeBytes_render⟩,
    fun given => ⟨result given, given.decodeBytes_render⟩,
    fun text given => ⟨?_, fun _ => job given⟩, fun text given => ⟨?_, fun _ => result given⟩⟩
  · simp only [Json.decodeText_iff, Job.decode_iff]
  · simp only [Json.decodeText_iff, JobResult.decode_iff]

/-- The fields of a result out of order and among others, with nothing for the output. -/
def unorderedResult : String :=
  "\x7b\"output\":null,\"runtime\":3,\"note\":[\"\\u0041\",\x7b\x7d],\"memory_usage\":12," ++
    "\"total_num\":2,\"pass_num\":1,\"status\":1,\"user_id\":-7\x7d"

/-- The fields of a job in order, without their names. -/
def unnamedJob : String := " [7, 2, \"\\n\", [\"\"], [\"\\u00e9\"], 0, -1, 1] "

theorem wire_round_trip_unordered :
    let result : JobResult :=
      { user := -7, verdict := .wrongAnswer, passed := 1, total := 2, memory := 12, runtime := 3, output := none }
    let job : Job :=
      { user := 7, language := .cpp, source := "\n", inputs := [""], expected := ["é"], timeLimit := 0,
        memoryLimit := -1, total := 1 }
    (Json.decodeText JobResult.decode unorderedResult = .ok result ∧
      Json.decodeText JobResult.decode result.toJson.render = .ok result) ∧
    (Json.decodeText Job.decode unnamedJob = .ok job ∧
      Json.decodeText Job.decode job.toJson.render = .ok job) := by
  intro result job
  have readResult : Json.decodeText JobResult.decode unorderedResult = .ok result := by decide +kernel
  have readJob : Json.decodeText Job.decode unnamedJob = .ok job := by decide +kernel
  obtain ⟨-, -, jobs, results⟩ := wire_round_trip
  exact ⟨⟨readResult, (results _ _).2 readResult⟩, readJob, (jobs _ _).2 readJob⟩

end CodeJudge
