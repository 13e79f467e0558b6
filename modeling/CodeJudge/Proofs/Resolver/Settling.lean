import CodeJudge.Proofs.Resolver.Reference

/-!
# The race, read off its finishes

Under a clock a race can be followed without its channel, its permit and its timer, and without the
numbers of its cases: `settle` goes through the finishes in the order of their times and tallies passes
until the last of them, a failure or the budget ends it.

**The law** (`timed_eq_settle`): when no two of the times are equal, the race comes to what `settle` comes
to, however many cases there are. The finishes that it goes through do not tell in which order the cases
stand in the script (`finished_events_eq`), nor what the budget is, so that races which differ in these can
be compared finish by finish.

**What it does not establish.** Which of two events at one time comes first.
-/

namespace CodeJudge.Resolver

open Sandbox (Report)

/-- **What a race comes to** that counts up to `total` cases, after the passes in a tally: when its verdict
falls, and the answer. The finishes are gone through in the order in which they are given. -/
def settle (total : Nat) (budget : Nanos) (tally : Tally) : List (Nanos × Finish) → Nanos × Resolution
  | [] => (budget, resolution total .budgetElapsed tally)
  | (time, how) :: rest =>
    if budget < time then (budget, resolution total .budgetElapsed tally)
    else
      match how.pass? with
      | none => (time, resolution total (.failed (how.failure 0)) tally)
      | some report =>
        if tally.passed + 1 = total then (time, resolution total .allPassed (tally.record report))
        else settle total budget (tally.record report) rest

section

variable {total : Nat} {budget time : Nanos} {tally : Tally} {report : Report} {how : Finish}
  {ends rest : List (Nanos × Finish)}

/-! ## One finish -/

/-- When all that is left comes too late, the budget elapses. -/
theorem settle_late (late : ∀ entry ∈ ends, budget < entry.1) :
    settle total budget tally ends = (budget, resolution total .budgetElapsed tally) := by
  cases ends with
  | nil => rfl
  | cons entry rest => rw [settle, if_pos (late entry List.mem_cons_self)]

theorem settle_fail (early : time ≤ budget) (fails : how.passes = false) :
    settle total budget tally ((time, how) :: rest) =
      (time, resolution total (.failed (how.failure 0)) tally) := by
  rw [settle, if_neg (Nat.not_lt.mpr early), Finish.pass?_of_fails fails]

theorem settle_last (early : time ≤ budget) (passed : report.outcome = .pass)
    (full : tally.passed + 1 = total) :
    settle total budget tally ((time, .ok report) :: rest) =
      (time, resolution total .allPassed (tally.record report)) := by
  rw [settle, if_neg (Nat.not_lt.mpr early), Finish.pass?_of_passes passed]
  exact if_pos full

theorem settle_pass (early : time ≤ budget) (passed : report.outcome = .pass)
    (missing : tally.passed + 1 ≠ total) :
    settle total budget tally ((time, .ok report) :: rest) =
      settle total budget (tally.record report) rest := by
  rw [settle, if_neg (Nat.not_lt.mpr early), Finish.pass?_of_passes passed]
  exact if_neg missing

/-- The answer to a failure does not tell which case has failed. -/
theorem resolution_failed (index : Nat) :
    resolution total (.failed (how.failure index)) tally =
      resolution total (.failed (how.failure 0)) tally := by
  cases how <;> rfl

end

/-! ## A whole race -/

/-- Passes that leave one missing are tallied. -/
theorem settle_passes {total : Nat} {budget : Nanos} {tally : Tally} {done : List (Nanos × Step)}
    {ends : List (Nanos × Finish)} (early : ∀ event ∈ done, event.1 ≤ budget)
    (quiet : ∀ event ∈ done, event.2.pass?.isSome) (missing : tally.passed + done.length < total) :
    settle total budget tally (finished done ++ ends) = settle total budget (tallied tally done) ends := by
  induction done generalizing tally with
  | nil => rfl
  | cons event others ih =>
    obtain ⟨time, step⟩ := event
    obtain ⟨index, report, rfl, passed⟩ := Step.exists_of_pass? (quiet _ List.mem_cons_self)
    have first : finished ((time, .finish index (.ok report)) :: others) =
        (time, .ok report) :: finished others := rfl
    rw [List.length_cons] at missing
    have still : tally.passed + 1 + others.length < total := by omega
    rw [first, List.cons_append, settle_pass (early _ List.mem_cons_self) passed (by omega),
      tallied_pass passed]
    exact ih (fun event mem => early event (List.mem_cons_of_mem _ mem))
      (fun event mem => quiet event (List.mem_cons_of_mem _ mem)) still

/-- **The race comes to what its finishes say**, when no two of its times and the budget are equal. -/
theorem timed_eq_settle {script : Script} {budget : Nanos} (some_ : counted script.length ≠ 0)
    (distinct : (budget :: (finishing script).map (·.1)).Nodup) :
    timed script budget =
      settle (counted script.length) budget {} (finished (events script budget)) := by
  obtain ⟨done, time, step, rest, decision, last, stops⟩ :=
    race_stops .start (pending_events script budget) (Nat.pos_of_ne_zero some_)
      ⟨budget, ring_mem_events script budget⟩
  have stopped : Stopped script budget done time step rest := ⟨stops.split, stops.quiet, distinct⟩
  have answer : timed script budget =
      (time, resolution (counted script.length) decision (tallied {} (done ++ [(time, step)]))) := by
    simp only [timed, some_, ↓reduceIte, stops.raced, stops.answered, Option.getD_some]
  have early : ∀ event ∈ done, event.1 ≤ budget := fun event mem =>
    Nat.le_of_lt (Nat.lt_of_lt_of_le (stopped.before mem) stopped.le_budget)
  have count : (tallied {} done).passed = done.length := by
    have length : ((passedIn (done.map (·.2))).map (·.2)).length = done.length := by
      rw [reports_passedIn, List.length_map, stopped.length_passesAmong_done]
    rw [tallied, tally_eq, length]
  have later : tallied {} (done ++ [(time, step)]) = tallied (tallied {} done) [(time, step)] := by
    simp only [tallied, passedIn, List.map_append, List.filterMap_append, List.foldl_append]
  have decides := stops.decides
  simp only [Nat.zero_add] at decides
  rw [answer, later, stops.split, finished_append, settle_passes early stops.quiet stops.missing]
  cases decides with
  | ring =>
    have late : ∀ entry ∈ finished ((time, Step.ring) :: rest), budget < entry.1 := by
      intro entry mem
      exact stopped.eq_budget ▸ stopped.late (List.mem_map.mpr ⟨entry, mem, rfl⟩)
    rw [settle_late late, ← stopped.eq_budget]
    rfl
  | @failed index how fails =>
    have here : finished ((time, .finish index how) :: rest) = (time, how) :: finished rest := rfl
    have none : tallied (tallied {} done) [(time, .finish index how)] = tallied {} done := by
      simp only [tallied, passedIn, List.map_cons, List.map_nil, List.filterMap_cons,
        Step.pass?_finish_fail fails, List.filterMap_nil, List.foldl_nil]
    rw [here, settle_fail stopped.le_budget fails, none, resolution_failed]
  | @last index report passed full =>
    have here : finished ((time, .finish index (.ok report)) :: rest) =
      (time, .ok report) :: finished rest := rfl
    rw [here, settle_last stopped.le_budget passed (count ▸ full), tallied_pass passed]
    rfl

/-! ## The finishes in their order -/

/-- **The finishes of a race are told by which cases there are**, and not by how they are ordered or by
the budget. -/
theorem finished_events_eq {script other : Script} (perm : script.Perm other)
    (distinct : ((finishing script).map (·.1)).Nodup) (budget larger : Nanos) :
    finished (events script budget) = finished (events other larger) := by
  have sorted (script : Script) (budget : Nanos) :
      (finished (events script budget)).Pairwise fun a b => a.1 ≤ b.1 := by
    refine List.pairwise_filterMap.mpr ((events_sorted script budget).imp ?_)
    intro first second le one here two there
    obtain ⟨_, _, rfl⟩ := Option.map_eq_some_iff.mp here
    obtain ⟨_, _, rfl⟩ := Option.map_eq_some_iff.mp there
    exact le
  have same : (finished (events script budget)).Perm (finished (events other larger)) :=
    (finished_events script budget).trans
      ((perm.filterMap id).trans (finished_events other larger).symm)
  have apart : ((finished (events script budget)).map (·.1)).Nodup :=
    ((finished_events script budget).map _).nodup_iff.mpr distinct
  refine same.eq_of_pairwise ?_ (sorted script budget) (sorted other larger)
  -- of finishes at one time there is only one
  intro first second mem mem_ le ge
  exact List.inj_on_of_nodup_map apart mem (same.mem_iff.mpr mem_) (Nat.le_antisymm le ge)

end CodeJudge.Resolver
