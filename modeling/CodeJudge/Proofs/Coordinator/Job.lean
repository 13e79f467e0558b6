import CodeJudge.Coordinator.Stage
import CodeJudge.Proofs.Actions

/-!
# The job of a submission

The coordinator makes a job of a submission, and of the cases and the limits of its problem, where their
numbers fit into words of 32 bits with a sign. A job that is made carries everything as it is
(`jobOf_eq_ok_iff`), so what a worker finds wrong with its shape is told by the problem
(`Carries.validate_eq`): the lists of cases are never uneven.
-/

namespace CodeJudge.Coordinator

open Store (CaseRow Limits)

/-- A number is kept in a word of 32 bits with a sign, or there is no word for it. -/
theorem narrow_eq_ok_iff {n : Nat} {word : Int32} : narrow n = .ok word ↔ word.toInt = n := by
  unfold narrow
  have bound := word.toInt_lt
  split
  · rename_i small
    rw [Except.ok.injEq, ← Int32.toInt_inj, Int32.toInt_ofNat_of_lt small, eq_comm]
  · simp only [reduceCtorEq, false_iff]
    omega

theorem narrow_eq_error {n : Nat} {fault : Fault} (failed : narrow n = .error fault) :
    fault = .tooLarge ∧ 2147483647 < n := by
  unfold narrow at failed
  split at failed
  · cases failed
  · cases failed
    exact ⟨rfl, by omega⟩

/-- **What a job carries** of a submission, and of the cases and the limits of its problem. -/
structure Carries (request : Request) (language : Language) (cases : List CaseRow) (limits : Limits)
    (job : Job) : Prop where
  user : job.user = request.submission.user
  language : job.language = language
  source : job.source = request.submission.source
  inputs : job.inputs = cases.map (·.input)
  expected : job.expected = cases.map (·.expected)
  total : job.total.toInt = cases.length
  timeLimit : job.timeLimit.toInt = limits.time
  memoryLimit : job.memoryLimit.toInt = limits.memory

variable {request : Request} {language : Language} {cases : List CaseRow} {limits : Limits} {job : Job}

/-- **A job is made that carries everything as it is, or none.** -/
theorem jobOf_eq_ok_iff :
    jobOf request language cases limits = .ok job ↔ Carries request language cases limits job := by
  simp only [jobOf, bind_eq_ok, narrow_eq_ok_iff]
  constructor
  · rintro ⟨total, totals, time, times, memory, memories, made⟩
    cases made
    exact ⟨rfl, rfl, rfl, rfl, rfl, totals, times, memories⟩
  · rintro ⟨user, language, source, inputs, expected, total, time, memory⟩
    refine ⟨_, total, _, time, _, memory, ?_⟩
    rw [← user, ← language, ← source, ← inputs, ← expected]
    rfl

/-- No job is made where a number is too large for it. -/
theorem jobOf_eq_error {fault : Fault} (failed : jobOf request language cases limits = .error fault) :
    fault = .tooLarge ∧
      (2147483647 < cases.length ∨ 2147483647 < limits.time ∨ 2147483647 < limits.memory) := by
  simp only [jobOf, bind_eq_error] at failed
  rcases failed with total | ⟨_, _, time | ⟨_, _, memory | ⟨_, _, made⟩⟩⟩
  · obtain ⟨rfl, large⟩ := narrow_eq_error total
    exact ⟨rfl, .inl large⟩
  · obtain ⟨rfl, large⟩ := narrow_eq_error time
    exact ⟨rfl, .inr (.inl large)⟩
  · obtain ⟨rfl, large⟩ := narrow_eq_error memory
    exact ⟨rfl, .inr (.inr large)⟩
  · cases made

/-- Where a number is too large for it, no job is made. -/
theorem jobOf_of_large
    (large : 2147483647 < cases.length ∨ 2147483647 < limits.time ∨ 2147483647 < limits.memory) :
    jobOf request language cases limits = .error .tooLarge := by
  cases made : jobOf request language cases limits with
  | error fault => rw [(jobOf_eq_error made).1]
  | ok job =>
    have carries := jobOf_eq_ok_iff.mp made
    have total := carries.total
    have time := carries.timeLimit
    have memory := carries.memoryLimit
    have totalBound := job.total.toInt_lt
    have timeBound := job.timeLimit.toInt_lt
    have memoryBound := job.memoryLimit.toInt_lt
    omega

namespace Carries

/-- What a job carries fits into it. -/
theorem fits (carries : Carries request language cases limits job) :
    limits.time ≤ 2147483647 ∧ limits.memory ≤ 2147483647 := by
  have time := carries.timeLimit
  have memory := carries.memoryLimit
  have timeBound := job.timeLimit.toInt_lt
  have memoryBound := job.memoryLimit.toInt_lt
  omega

/-- **What is wrong with the shape of a job** that carries a problem as it is: there is no case, or else a
limit is zero. -/
theorem validate_eq (carries : Carries request language cases limits job) :
    job.validate =
      if cases.length = 0 then .error (.noCases 0)
      else if limits.time = 0 ∨ limits.memory = 0 then .error .limits else .ok () := by
  have even : ¬ (job.inputs.length ≠ job.total.toInt.toNat ∨
      job.expected.length ≠ job.total.toInt.toNat) := by
    rw [carries.inputs, carries.expected, carries.total, List.length_map, List.length_map]
    omega
  have zero : (job.timeLimit.toInt ≤ 0 ∨ job.memoryLimit.toInt ≤ 0) ↔
      limits.time = 0 ∨ limits.memory = 0 := by
    rw [carries.timeLimit, carries.memoryLimit]
    omega
  simp only [Job.validate, even, zero, ↓reduceIte]
  by_cases none_ : cases.length = 0
  · have total : job.total = 0 := Int32.toInt_inj.mp (by rw [carries.total, none_]; rfl)
    rw [if_pos none_, if_pos (by rw [carries.total]; omega), total]
  · rw [if_neg none_, if_neg (by rw [carries.total]; omega)]

theorem validate_ok_iff (carries : Carries request language cases limits job) :
    job.validate = .ok () ↔ 1 ≤ cases.length ∧ 1 ≤ limits.time ∧ 1 ≤ limits.memory := by
  rw [carries.validate_eq]
  split
  · simp only [reduceCtorEq, false_iff]
    omega
  · split
    · simp only [reduceCtorEq, false_iff]
      omega
    · simp only [true_iff]
      omega

theorem validate_error (carries : Carries request language cases limits job) {fault : Job.Fault}
    (refused : job.validate = .error fault) : fault = if cases.length = 0 then .noCases 0 else .limits := by
  rw [carries.validate_eq] at refused
  split at refused
  · cases refused
    rw [if_pos ‹_›]
  · rw [if_neg ‹_›]
    split at refused
    · cases refused
      rfl
    · cases refused

end Carries

end CodeJudge.Coordinator
