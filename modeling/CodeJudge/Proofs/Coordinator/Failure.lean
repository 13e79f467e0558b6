import CodeJudge.Proofs.Coordinator.Effect
import CodeJudge.Proofs.Coordinator.Solved

/-!
# After a failure

A submission that fails once it is kept is meant to stay without a judgement, so that it can be handed in
again as if it had never been judged. This holds of every failure but one: the judgement is kept before
the credit for it is asked for, and stays when only the credit fails.

**The law** (`unjudged_iff`): a submission that has failed is without a judgement exactly when it has not
come to ask for credit; and only then a later solution by the same user is credited.
-/

namespace CodeJudge.Coordinator

open Store (Id Database Tables)

variable {W : Type} {judge : Job → StateM W (Except Fault JobResult)} {faults : Faults}
variable {request : Request} {before after : Database} {acts : List Act} {fault : Fault}

/-- **What a failed submission leaves among the judgements**: nothing, unless it is the credit that has
failed; then the judgement that was to be credited. -/
inductive Remains (request : Request) (before : Tables) : List Act → Tables → Prop
  | nothing {acts : List Act} {after : Tables} (early : .call .incrementSolvedCount ∉ acts)
      (same : after.judgements = before.judgements) : Remains request before acts after
  | judgement {acts : List Act} {after : Tables} {result : JobResult}
      (late : .call .incrementSolvedCount ∈ acts) (accepted : result.verdict = .accepted)
      (more : after.judgements = before.judgements ++
        [(request.judgement before result).row (before.lastJudgement + 1)]) :
      Remains request before acts after

/-- Of the stages that can fail, only the last one has a judgement in the store. -/
theorem Reached.remains
    (reached : Reached judge faults request before (.ended (.error (.system fault))) after acts) :
    Remains request before.tables acts after.tables := by
  cases reached with
  | failed reached asks why =>
    cases reached with
    | first judged accepted unsolved =>
      cases asks
      exact .judgement (List.mem_append_right _ (List.mem_singleton_self _)) accepted rfl
    | _ => cases asks <;> exact .nothing (of_decide_eq_false rfl) rfl

namespace Remains

variable {tables : Tables}

/-- Where the keys are sound, a failed submission is without a judgement exactly when it has not asked for
credit. -/
theorem unjudged_iff (remains : Remains request before.tables acts tables)
    (keyed : before.tables.Keyed) :
    (∀ row ∈ tables.judgements, row.submission ≠ before.tables.lastSubmission + 1) ↔
      .call .incrementSolvedCount ∉ acts := by
  cases remains with
  | nothing early same =>
    rw [same]
    exact iff_of_true keyed.unjudged early
  | judgement late accepted more =>
    refine iff_of_false (fun none_ => ?_) (fun early => early late)
    rw [more] at none_
    exact none_ _ (List.mem_append_right _ (List.mem_singleton_self _)) rfl

/-- Where the problem was not solved before, a failed submission solves it exactly when it has asked for
credit. -/
theorem priorAccepted_iff (remains : Remains request before.tables acts tables)
    (unsolved : before.tables.priorAccepted request.user request.problem = false) :
    tables.priorAccepted request.user request.problem = true ↔
      .call .incrementSolvedCount ∈ acts := by
  cases remains with
  | nothing early same =>
    rw [Tables.priorAccepted, same, ← Tables.priorAccepted, unsolved]
    exact iff_of_false Bool.false_ne_true early
  | @judgement result late accepted more =>
    refine iff_of_true ?_ late
    rw [Tables.priorAccepted, more, List.any_append, Bool.or_eq_true]
    refine .inr (List.any_eq_true.mpr ⟨_, List.mem_singleton_self _, ?_⟩)
    exact ((request.judgement before.tables result).accepts_row _).mpr ⟨rfl, rfl, accepted⟩

end Remains

/-- A submission that comes to an outcome adds one to the count of its user exactly when it solves a
problem that was not solved before. -/
theorem Effect.countOf_of_ok {trace : Trace} {outcome : Outcome}
    (effect : Effect judge faults request before (.ok outcome) after trace) :
    after.tables.countOf request.user = before.tables.countOf request.user +
      if outcome.verdict = .accepted ∧
        before.tables.priorAccepted request.user request.problem = false then 1 else 0 := by
  obtain ⟨language, job, result, receipt⟩ := effect.receipt outcome rfl
  obtain ⟨-, -, credits⟩ := effect.leaves.sizes
  rw [credits, accomplished_ok, Extent.credits_of]
  simp only [receipt.credit]

/-- **What is left of a submission that has failed.** It is without a judgement exactly when it has not
come to ask for credit. If the problem was not solved before, a later solution by the same user is
credited exactly then, whatever happens to it on the way. -/
theorem failed_submission_exact (judge : Job → StateM W (Except Fault JobResult)) (faults : Faults)
    (request : Request) (before : Database) (world : W) {fault : Fault} {after : Database}
    {trace : Trace} (keyed : before.tables.Keyed)
    (failed : ((submit judge faults request before).run world).1 =
      (.error (.system fault), after, trace)) :
    ((∀ row ∈ after.tables.judgements, row.submission ≠ before.tables.lastSubmission + 1) ↔
      .call .incrementSolvedCount ∉ trace.acts) ∧
    (before.tables.priorAccepted request.user request.problem = false →
      ∀ (judging : Job → StateM W (Except Fault JobResult)) (others : Faults) (again : Request)
        (between : W) (outcome : Outcome) (last : Database) (later : Trace),
        again.user = request.user → again.problem = request.problem →
        ((submit judging others again after).run between).1 = (.ok outcome, last, later) →
        outcome.verdict = .accepted →
        last.tables.countOf request.user = after.tables.countOf request.user +
          if .call .incrementSolvedCount ∈ trace.acts then 0 else 1) := by
  obtain ⟨_, _, _, ran, reached⟩ := reached_of_submit judge faults request before world
  cases failed.symm.trans ran
  have remains := reached.remains
  refine ⟨remains.unjudged_iff keyed, fun unsolved => ?_⟩
  intro judging others again between outcome last later user problem ended accepted
  obtain ⟨_, _, _, ran, effect⟩ := submit_effect judging others again after between
  cases ended.symm.trans ran
  have counts := effect.countOf_of_ok
  simp only [user, problem, accepted, true_and] at counts
  have solved := remains.priorAccepted_iff unsolved
  by_cases asked : .call .incrementSolvedCount ∈ trace.acts
  · rw [counts, solved.mpr asked, if_pos asked]
    rfl
  · rw [counts, Bool.eq_false_iff.mpr (mt solved.mp asked), if_neg asked]
    rfl

/-- A store with the user and the problem of `attempt`. -/
def stocked : Database where
  tables := { users := [⟨1, "a", 0⟩], problems := [⟨7, "b", 1000, 65536⟩] }

/-- A judge that answers every job alike. -/
def answering (answer : Except Fault JobResult) : Job → StateM Unit (Except Fault JobResult) :=
  fun _ => pure answer

/-- A submission for which no worker is found. -/
def undelivered : Except SubmitError Outcome × Database × Trace :=
  ((submit (answering (.error (.other "no worker"))) (fun _ => none) attempt stocked).run ()).1

/-- The same submission again, which a worker accepts. -/
def delivered : Except SubmitError Outcome × Database × Trace :=
  ((submit (answering (.ok acceptance)) (fun _ => none) attempt undelivered.2.1).run ()).1

theorem failed_submission_exact_undelivered :
    undelivered.1 = .error (.system (.other "no worker")) ∧
    (∀ row ∈ undelivered.2.1.tables.judgements,
      row.submission ≠ stocked.tables.lastSubmission + 1) ∧
    delivered.2.1.tables.countOf 1 = undelivered.2.1.tables.countOf 1 + 1 :=
  have keyed : stocked.tables.Keyed := ⟨⟨List.nodup_nil, nofun⟩, List.nodup_nil, nofun, nofun⟩
  have failed : undelivered =
      (.error (.system (.other "no worker")), undelivered.2.1, undelivered.2.2) := rfl
  have exact_ := failed_submission_exact (answering (.error (.other "no worker"))) (fun _ => none)
    attempt stocked () keyed failed
  ⟨rfl, exact_.1.mpr (by decide),
    exact_.2 (by decide) (answering (.ok acceptance)) (fun _ => none) attempt ()
      ⟨2, 1, .accepted, 1, 1, 0, 0, ""⟩ delivered.2.1 delivered.2.2 rfl rfl rfl rfl⟩

/-- A fault in the way of the credit, and of nothing else. -/
def creditFault : Faults
  | .incrementSolvedCount => some (.other "lost")
  | _ => none

/-- A submission that a worker accepts, and that is not credited. -/
def uncredited : Except SubmitError Outcome × Database × Trace :=
  ((submit (answering (.ok acceptance)) creditFault attempt stocked).run ()).1

/-- The same submission again, with no fault in its way. -/
def repeated : Except SubmitError Outcome × Database × Trace :=
  ((submit (answering (.ok acceptance)) (fun _ => none) attempt uncredited.2.1).run ()).1

/-- A submission that has failed may have its judgement, and no later one is credited then. -/
theorem failed_submission_judged :
    uncredited.1 = .error (.system (.other "lost")) ∧
    (∃ row ∈ uncredited.2.1.tables.judgements,
      row.submission = stocked.tables.lastSubmission + 1 ∧ row.verdict = Verdict.accepted.code) ∧
    stocked.tables.priorAccepted 1 7 = false ∧
    repeated.1 = .ok ⟨2, 2, .accepted, 1, 1, 0, 0, ""⟩ ∧
    uncredited.2.1.tables.countOf 1 = 0 ∧ repeated.2.1.tables.countOf 1 = 0 := by
  decide

end CodeJudge.Coordinator
