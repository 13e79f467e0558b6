import CodeJudge.Proofs.Resolver.Settling
import Mathlib.Data.List.Permutation

/-!
# Two races over the same cases

What becomes of an answer when the cases stay as they are and something else about the race changes.

**More time** (`larger_budget_keeps`). A verdict that fell before the budget had elapsed is the verdict
under every larger budget, and so is the whole answer. Where the budget did elapse, a larger one counts at
least the same passes and measures at least as much. So an accepted submission stays accepted, and no pass
is lost.

**Another order** (`permuted_script_same_answer`). The answer does not tell in which order the cases stand
in the script, though a case enters the race with its index, and failures carry it through the channel.

Both laws compare the races by their finishes (`timed_eq_settle`), and those are the same for both
(`finished_events_eq`). Neither asks for a bound on the number of cases.

**What it does not establish.** Anything of cases that finish at one time, or just when the budget elapses.
-/

namespace CodeJudge.Resolver

open Sandbox (Report)

/-! ## Answers that measure more -/

/-- **A tally that has grown** out of another one. -/
structure Tally.Grown (before after : Tally) : Prop where
  passed : before.passed ≤ after.passed
  elapsed : before.elapsed ≤ after.elapsed
  memory : before.memory ≤ after.memory

/-- **An answer that covers another**: it counts all the passes of the other, and its measurements are no
smaller. -/
structure Resolution.Covers (more less : Resolution) : Prop where
  passed : less.passed ≤ more.passed
  runtime : less.runtime ≤ more.runtime
  memory : less.memory ≤ more.memory

theorem Resolution.Covers.refl (answer : Resolution) : answer.Covers answer :=
  ⟨Nat.le_refl _, Nat.le_refl _, Nat.le_refl _⟩

theorem Tally.Grown.refl (tally : Tally) : tally.Grown tally :=
  ⟨Nat.le_refl _, Nat.le_refl _, Int.le_refl _⟩

/-- A tally grows with every pass that is counted. -/
theorem Tally.Grown.record {before after : Tally} (grown : before.Grown after) (report : Report) :
    before.Grown (after.record report) where
  passed := Nat.le_succ_of_le grown.passed
  elapsed := Nat.le_trans grown.elapsed (Nat.le_max_left ..)
  memory := Int.le_trans grown.memory (Int.le_max_left ..)

/-- Clamping keeps the order. -/
theorem clamp_le_clamp (bounds : Decimal.Bounds) {first second : Int} (le : first ≤ second) :
    bounds.clamp first ≤ bounds.clamp second := by
  unfold Decimal.Bounds.clamp
  omega

/-- An answer with larger measurements behind it covers one with smaller. -/
theorem covers_of_measured {verdict verdict_ : Verdict} {output output_ : String} {total total_ : Nat}
    {before after : Tally} (grown : before.Grown after) :
    Resolution.Covers
      ⟨verdict, after.passed, total, min after.elapsed.milliseconds greatest,
        (Decimal.uint32.clamp after.memory).toNat, output⟩
      ⟨verdict_, before.passed, total_, min before.elapsed.milliseconds greatest,
        (Decimal.uint32.clamp before.memory).toNat, output_⟩ where
  passed := grown.passed
  runtime := by
    have runtime : before.elapsed.milliseconds ≤ after.elapsed.milliseconds :=
      Nat.div_le_div_right grown.elapsed
    show min _ greatest ≤ min _ greatest
    omega
  memory := Int.toNat_le_toNat (clamp_le_clamp _ grown.memory)

/-- **Whatever is decided later covers the elapsing of the budget**: a case that fails can only add to what
the passes have measured. -/
theorem resolution_covers {total : Nat} {before after : Tally} (grown : before.Grown after)
    (decision : Decision) :
    (resolution total decision after).Covers (resolution total .budgetElapsed before) := by
  cases decision with
  | failed failure =>
    obtain ⟨index, verdict, report, output⟩ := failure
    cases report with
    | none => exact covers_of_measured grown
    | some report =>
      have measured : before.Grown
          { after with
            elapsed := max after.elapsed report.elapsed
            memory := max after.memory report.memory } :=
        ⟨grown.passed, Nat.le_trans grown.elapsed (Nat.le_max_left ..),
          Int.le_trans grown.memory (Int.le_max_left ..)⟩
      exact covers_of_measured measured
  | allPassed => exact covers_of_measured grown
  | budgetElapsed => exact covers_of_measured grown

/-! ## More time -/

section

variable {total : Nat} {budget larger : Nanos} {tally : Tally} {ends : List (Nanos × Finish)}

/-- A race that goes on from a tally covers what the elapsing of the budget makes of it. -/
theorem settle_covers {before : Tally} (grown : before.Grown tally) :
    (settle total budget tally ends).2.Covers (resolution total .budgetElapsed before) := by
  induction ends generalizing tally with
  | nil => exact resolution_covers grown .budgetElapsed
  | cons entry rest ih =>
    obtain ⟨time, how⟩ := entry
    rw [settle]
    split
    · exact resolution_covers grown .budgetElapsed
    · split
      · exact resolution_covers grown (.failed _)
      · split
        · exact resolution_covers (grown.record _) .allPassed
        · exact ih (grown.record _)

/-- When the budget elapses with a pass missing, the time limit is exceeded. -/
theorem verdict_budgetElapsed (missing : tally.passed < total) :
    (resolution total .budgetElapsed tally).verdict = .timeLimitExceeded := by
  simp only [resolution, Nat.ne_of_lt missing, ↓reduceIte]

/-- **A larger budget either changes nothing or comes after a time limit**, which its answer covers. -/
theorem settle_larger (le : budget ≤ larger) (missing : tally.passed < total) :
    settle total larger tally ends = settle total budget tally ends ∨
      (settle total budget tally ends).2.verdict = .timeLimitExceeded ∧
        (settle total larger tally ends).2.Covers (settle total budget tally ends).2 := by
  induction ends generalizing tally with
  | nil => exact .inr ⟨verdict_budgetElapsed missing, .refl _⟩
  | cons entry rest ih =>
    obtain ⟨time, how⟩ := entry
    by_cases late : budget < time
    · -- the smaller budget elapses here, and the larger one may go on
      have elapsed : settle total budget tally ((time, how) :: rest) =
          (budget, resolution total .budgetElapsed tally) := by
        rw [settle, if_pos late]
      rw [elapsed]
      exact .inr ⟨verdict_budgetElapsed missing, settle_covers (.refl tally)⟩
    · have early : time ≤ budget := Nat.le_of_not_lt late
      cases passes : how.passes with
      | false => exact .inl (by rw [settle_fail early passes, settle_fail (Nat.le_trans early le) passes])
      | true =>
        obtain ⟨report, rfl, passed⟩ := Finish.exists_of_passes passes
        by_cases full : tally.passed + 1 = total
        · exact .inl (by
            rw [settle_last early passed full, settle_last (Nat.le_trans early le) passed full])
        · rw [settle_pass early passed full, settle_pass (Nat.le_trans early le) passed full]
          exact ih (show tally.passed + 1 < total by omega)

end

/-- A job whose cases are counted as none is answered at once. -/
theorem timed_uncounted {script : Script} (none : counted script.length = 0) (budget : Nanos) :
    timed script budget = (0, withoutCases) := if_pos none

/-- **A larger budget never takes anything back**, when no two of the times and the two budgets are equal:
an answer other than an exceeded time limit stays as it is, and an exceeded time limit becomes an answer
that covers it. So what is accepted stays accepted, and every pass that counts goes on to count. -/
theorem larger_budget_keeps {script : Script} {budget larger : Nanos} (less : budget < larger)
    (distinct : (budget :: larger :: (finishing script).map (·.1)).Nodup) :
    ((timed script budget).2.verdict ≠ .timeLimitExceeded →
        timed script larger = timed script budget) ∧
      ((timed script budget).2.verdict = .timeLimitExceeded →
        (timed script larger).2.Covers (timed script budget).2) ∧
      ((timed script budget).2.verdict = .accepted →
        (timed script larger).2.verdict = .accepted) ∧
      (timed script budget).2.passed ≤ (timed script larger).2.passed := by
  have compared : timed script larger = timed script budget ∨
      (timed script budget).2.verdict = .timeLimitExceeded ∧
        (timed script larger).2.Covers (timed script budget).2 := by
    by_cases none : counted script.length = 0
    · exact .inl ((timed_uncounted none larger).trans (timed_uncounted none budget).symm)
    · obtain ⟨apart, distinctLarger⟩ := List.nodup_cons.mp distinct
      have distinctBudget : (budget :: (finishing script).map (·.1)).Nodup :=
        List.nodup_cons.mpr
          ⟨fun mem => apart (List.mem_cons_of_mem _ mem), (List.nodup_cons.mp distinctLarger).2⟩
      have same : finished (events script larger) = finished (events script budget) :=
        finished_events_eq (.refl script) (List.nodup_cons.mp distinctLarger).2 larger budget
      rw [timed_eq_settle none distinctLarger, timed_eq_settle none distinctBudget, same]
      exact settle_larger (Nat.le_of_lt less) (Nat.pos_of_ne_zero none)
  rcases compared with same | ⟨exceeded, covers⟩
  · rw [same]
    exact ⟨fun _ => rfl, fun _ => .refl _, id, Nat.le_refl _⟩
  · refine ⟨fun other => absurd exceeded other, fun _ => covers, fun accepted => ?_, covers.passed⟩
    rw [exceeded] at accepted
    cases accepted

/-- A case that has passed soon. -/
def soon : Finish := .ok ⟨.pass, 2500000, 10, "soon"⟩

/-- A case that has passed late. -/
def late : Finish := .ok ⟨.pass, 9000000, 3, "late"⟩

/-- A script whose second case passes late. -/
def slowScript : Script := [some (5, soon), some (12, late)]

/-- Under a budget of 9 the time limit is exceeded after one pass, and the answer under a budget of 20, where
both cases pass, covers that. -/
theorem larger_budget_keeps_slowScript :
    9 < 20 ∧ (9 :: 20 :: (finishing slowScript).map (·.1)).Nodup ∧
      timed slowScript 9 = (9, ⟨.timeLimitExceeded, 1, 2, 2, 10, ""⟩) ∧
      timed slowScript 20 = (12, ⟨.accepted, 2, 2, 9, 10, ""⟩) ∧
      (timed slowScript 20).2.Covers (timed slowScript 9).2 := by
  have between : events slowScript 9 =
      [(5, .finish 0 soon), (9, .ring), (12, .finish 1 late)] := by cbv
  have after : events slowScript 20 =
      [(5, .finish 0 soon), (12, .finish 1 late), (20, .ring)] := by cbv
  have exceeded : timed slowScript 9 = (9, ⟨.timeLimitExceeded, 1, 2, 2, 10, ""⟩) := by
    rw [timed, between]
    decide
  have accepted : timed slowScript 20 = (12, ⟨.accepted, 2, 2, 9, 10, ""⟩) := by
    rw [timed, after]
    decide
  refine ⟨by decide, by decide, exceeded, accepted, ?_⟩
  exact (larger_budget_keeps (by decide) (by decide)).2.1 (congrArg (·.2.verdict) exceeded)

/-! ## Another order of the cases -/

/-- **The order of the cases in the script does not matter** for the answer and the time at which it is
given, when no two of the times and the budget are equal. -/
theorem permuted_script_same_answer {script other : Script} (perm : script.Perm other) {budget : Nanos}
    (distinct : (budget :: (finishing script).map (·.1)).Nodup) :
    timed other budget = timed script budget := by
  have length : other.length = script.length := perm.length_eq.symm
  by_cases none : counted script.length = 0
  · rw [timed_uncounted none, timed_uncounted (length ▸ none)]
  · have times : (budget :: (finishing script).map (·.1)).Perm
        (budget :: (finishing other).map (·.1)) := ((perm.filterMap id).map _).cons budget
    have same : finished (events script budget) = finished (events other budget) :=
      finished_events_eq perm (List.nodup_cons.mp distinct).2 budget budget
    rw [timed_eq_settle none distinct,
      timed_eq_settle (length ▸ none) (times.nodup_iff.mp distinct), same, length]

/-- A case that fails decides from the end of the script as from its middle. -/
theorem permuted_script_same_answer_reversed :
    failingScript.Perm failingScript.reverse ∧ (11 :: (finishing failingScript).map (·.1)).Nodup ∧
      timed failingScript.reverse 11 = timed failingScript 11 ∧
      (timed failingScript.reverse 11).2.verdict = .wrongAnswer := by
  have order : events failingScript.reverse 11 =
      [(5, .finish 2 (.ok ⟨.pass, 2500000, -7, "first"⟩)),
        (9, .finish 1 (.ok ⟨.wrongAnswer, 1999999, 10000000000, "second"⟩)), (11, .ring),
        (12, .finish 0 (.ok ⟨.pass, 9000000, 3, "third"⟩))] := by cbv
  refine ⟨(List.reverse_perm _).symm, by decide,
    permuted_script_same_answer (List.reverse_perm _).symm (by decide), ?_⟩
  rw [timed, order]
  decide

end CodeJudge.Resolver
