import CodeJudge.Proofs.Actions
import CodeJudge.Sandbox.Execute
import Mathlib.Order.Basic

/-!
# What the head of an output decides

A program may print without end, and of what it has printed only the head is read. How much that is depends
on the text that is expected: a byte past it tells that there is more, so that no longer output is taken for
the expected one (`take_eq_iff`).

**The law** (`outcome_of_complete_output`): on every host, a case comes out as it would if everything that is
in the file of its output were read, and it passes exactly when the program has exited well, within the
limit, and has printed what is expected of it, byte for byte.

**What it does not establish.** That the file of the output holds what the program has printed.
-/

namespace CodeJudge.Sandbox

/-! ## The comparison -/

/-- The head of an output tells whether it is the expected one, if it goes past that. -/
theorem take_eq_iff {output expected : Bytes} {limit : Nat} (past : expected.length < limit) :
    output.take limit = expected ↔ output = expected := by
  constructor
  · intro same
    have length := congrArg List.length same
    rw [List.length_take] at length
    -- the head is as long as what is expected, which is too short for a part
    have whole : output.length ≤ limit := by omega
    rw [← same, List.take_of_length_le whole]
  · rintro rfl
    exact List.take_of_length_le (Nat.le_of_lt past)

theorem length_lt_headLength (expected : Bytes) : expected.length < headLength expected :=
  Nat.le_max_left (expected.length + 1) Cut.limit

/-- **The head of an output decides as the whole of it.** -/
theorem classify_head (exitedWell : Bool) (memory : Int) (memoryLimit : Nat) (output expected : Bytes) :
    classify exitedWell memory memoryLimit (output.take (headLength expected)) expected =
      classify exitedWell memory memoryLimit output expected := by
  simp only [classify, ne_eq, take_eq_iff (length_lt_headLength expected)]

section

variable {exitedWell : Bool} {memory : Int} {memoryLimit : Nat} {output expected : Bytes}

/-- What it takes to exceed the limit of memory. -/
theorem classify_eq_memoryLimitExceeded_iff :
    classify exitedWell memory memoryLimit output expected = .memoryLimitExceeded ↔
      exitedWell = true ∧ memoryLimit < memory := by
  unfold classify
  cases exitedWell
  · simp
  · by_cases exceeded : memory > memoryLimit
    · simp [exceeded]
    · by_cases same : output = expected <;> simp [exceeded, same]

/-- What it takes to pass. -/
theorem classify_eq_pass_iff :
    classify exitedWell memory memoryLimit output expected = .pass ↔
      exitedWell = true ∧ memory ≤ memoryLimit ∧ output = expected := by
  unfold classify
  cases exitedWell
  · simp
  · by_cases exceeded : memory > memoryLimit
    · simp [exceeded, Int.not_le.mpr exceeded]
    · by_cases same : output = expected <;> simp [exceeded, same, Int.not_lt.mp exceeded]

end

/-! ## Observing a case to its end -/

/-- The whole of a file; nothing of a file that cannot be read. -/
def Host.whole {W : Type} (host : Host W) (path : String) : StateM W Bytes := do
  match ← host.read path with
  | .ok content => return content.data.toList
  | .error _ => return []

/-- The head of a file is the head of the whole of it. -/
theorem Host.head_run {W : Type} (host : Host W) (path : String) (limit : Nat) (world : W) :
    (host.head path limit).run world =
      (((host.whole path).run world).1.take limit, ((host.whole path).run world).2) := by
  cases found : (host.read path).run world with
  | mk came after =>
    simp only [Host.head, Host.whole, run_bind, found]
    cases came with
    | error fault => simp only [run_pure, List.take_nil]
    | ok content =>
      have data : (content.extract 0 limit).data.toList = content.data.toList.take limit := by
        rw [ByteArray.data_extract, Array.toList_extract]
        simp
      rw [run_pure, run_pure, data]

/-- Whether a program is known to have exited well. -/
def Observation.exitedWell (observed : Observation) : Bool := observed.ending.toOption.getD false

/-- An observation of which only the head of the output is kept. -/
def Observation.headed (observed : Observation) (expected : Bytes) : Observation :=
  { observed with output := observed.output.take (headLength expected) }

/-- Runs an artifact on a case, and observes all that there is of its output. -/
def observe {W : Type} (host : Host W) (artifact : Artifact) (case : Case) (limit : Option Nanos) :
    StateM W (Option Observation) := do
  let path := outputPath artifact.directory case.index
  let before ← host.resident
  match ← runProgram host artifact case.input path limit with
  | none => return none
  | some (ending, elapsed) =>
    let after ← host.resident
    let output ← host.whole path
    let observed : Observation :=
      { ending := ending.mapError RunFault.message
        elapsed
        memory := Memory.growth before after
        output }
    return some observed

/-- A case is reported on as it is observed, from the head of its output. -/
theorem execute_run {W : Type} (host : Host W) (artifact : Artifact) (case : Case) (memoryLimit : Nat)
    (limit : Option Nanos) (world : W) :
    (execute host artifact case memoryLimit limit).run world =
      (((observe host artifact case limit).run world).1.map fun observed =>
          (observed.headed (Utf8.encode case.expected)).report memoryLimit (Utf8.encode case.expected),
        ((observe host artifact case limit).run world).2) := by
  cases ran : (runProgram host artifact case.input (outputPath artifact.directory case.index) limit).run
    (host.resident.run world).2 with
  | mk came after =>
    simp only [execute, observe, run_bind, ran]
    cases came with
    | none => rfl
    | some ended => simp only [run_bind, Host.head_run, run_pure, Option.map_some, Observation.headed]

/-- **A case comes out as its complete output says.** However a program has ended, whatever it has printed
and however the memory has grown: its outcome on the head of the output is that on the whole of it, so that
it passes exactly if it has exited well, within the limit, with the expected output, and no growth below
zero is more than the limit. Running a case does nothing else than observing it, on every host. -/
theorem outcome_of_complete_output (memoryLimit : Nat) :
    (∀ (observed : Observation) (expected : Bytes),
      let report := (observed.headed expected).report memoryLimit expected
      report.outcome =
          classify observed.exitedWell observed.memory memoryLimit observed.output expected ∧
        (report.outcome = .pass ↔
          observed.ending = .ok true ∧ observed.memory ≤ memoryLimit ∧ observed.output = expected) ∧
        (observed.memory ≤ 0 → report.outcome ≠ .memoryLimitExceeded)) ∧
    ∀ {W : Type} (host : Host W) (artifact : Artifact) (case : Case) (limit : Option Nanos) (world : W),
      (execute host artifact case memoryLimit limit).run world =
        (((observe host artifact case limit).run world).1.map fun observed =>
            (observed.headed (Utf8.encode case.expected)).report memoryLimit (Utf8.encode case.expected),
          ((observe host artifact case limit).run world).2) := by
  refine ⟨fun observed expected => ?_, fun host artifact case limit world =>
    execute_run host artifact case memoryLimit limit world⟩
  have whole : ((observed.headed expected).report memoryLimit expected).outcome =
      classify observed.exitedWell observed.memory memoryLimit observed.output expected :=
    classify_head observed.exitedWell observed.memory memoryLimit observed.output expected
  have well : observed.exitedWell = true ↔ observed.ending = .ok true := by
    unfold Observation.exitedWell
    cases observed.ending with
    | error reason => simp [Except.toOption]
    | ok exitedWell => simp [Except.toOption]
  refine ⟨whole, ?_, fun shrunk => ?_⟩
  · rw [whole, classify_eq_pass_iff, well]
  · rw [whole, ne_eq, classify_eq_memoryLimitExceeded_iff, not_and]
    intro _
    omega

end CodeJudge.Sandbox
