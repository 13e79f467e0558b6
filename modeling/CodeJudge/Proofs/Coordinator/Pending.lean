import CodeJudge.Proofs.Coordinator.Integrity

/-!
# Submissions that wait for their judgement

A submission that is kept has a number of its own, and until its judgement is kept there is none of it
(`pending_of_after?`), however many submissions are under way. So the store, which is open all the while,
refuses nothing that a submission asks of it: neither key nor reference can be violated. Only a job may not
be made, where the cases or limits of the problem do not fit into one (`unfit_of_refused`).
-/

namespace CodeJudge.Coordinator

open Store (Database Id Tables)

/-- The number of a submission that is kept, and whose judgement is not. -/
def Stage.pending? : Stage → Option Id
  | .readCases _ submission | .readLimits _ submission _ | .dispatch submission _ => some submission
  | .wait judgement _ | .findPrior judgement _ | .record judgement _ _ => some judgement.submission
  | .findUser | .findProblem | .keep _ | .count _ _ _ | .ended _ => none

/-- What is known of a submission before it is kept: what it has asked for is there. -/
def Known (tables : Tables) (request : Request) : Stage → Prop
  | .findProblem => tables.userExists request.user = true
  | .keep _ => tables.userExists request.user = true ∧ tables.problemExists request.problem = true
  | _ => True

/-- **What is known of the submissions of a run** until their judgements are kept. -/
structure Pending (run : Run) : Prop where
  isOpen : run.database.isOpen = true
  known : ∀ active ∈ run.active, Known run.database.tables active.request active.stage
  unjudged : ∀ active ∈ run.active, ∀ id, active.stage.pending? = some id →
    ∀ row ∈ run.database.tables.judgements, row.submission ≠ id
  apart : ∀ (first second : Nat) (one other : Active) (id : Id), run.active[first]? = some one →
    run.active[second]? = some other → one.stage.pending? = some id → other.stage.pending? = some id →
      first = second

variable {request : Request} {fault : Option Fault} {judged : Except Fault JobResult}
variable {stage next : Stage} {before after : Database} {run later : Run} {event : Event}

theorem Agrees.exists_row {tables : Tables} (agrees : Agrees tables request stage) {id : Id}
    (pending : stage.pending? = some id) : ∃ row ∈ tables.submissions, row.id = id := by
  cases stage with
  | readCases | readLimits | dispatch | wait | findPrior | record =>
    cases pending
    obtain ⟨row, there, same, -⟩ := agrees
    exact ⟨row, there, same⟩
  | _ => cases pending

theorem Known.extends {tables later : Tables} (known : Known tables request stage)
    (extends_ : tables.Extends later) : Known later request stage := by
  cases stage with
  | findProblem => exact extends_.users _ known
  | keep language => exact ⟨extends_.users _ known.1, extends_.problems _ known.2⟩
  | _ => trivial

/-! ## Steps -/

theorem Moves.isOpen (moves : Moves request fault judged before stage next after) :
    after.isOpen = before.isOpen := by
  cases moves <;> rfl

theorem Moves.known (moves : Moves request fault judged before stage next after)
    (known : Known before.tables request stage) : Known after.tables request next := by
  cases moves with
  | foundUser made there => exact there
  | foundProblem made there parsed => exact ⟨known, there⟩
  | still => exact known
  | _ => trivial

/-- A submission that waits has waited before, or has been given the next number. -/
theorem Moves.pending? (moves : Moves request fault judged before stage next after) {id : Id}
    (pending : next.pending? = some id) :
    stage.pending? = some id ∨ id = before.tables.lastSubmission + 1 := by
  cases moves with
  | kept made saved =>
    obtain ⟨rfl, -⟩ := Tables.saveSubmission_ok saved
    cases pending
    exact .inr rfl
  | readCases | readLimits | locked | foundPrior => exact .inl pending
  | delivered =>
    cases pending
    exact .inl rfl
  | still => cases pending
  | _ => cases pending

/-- A judgement that is new is of the submission that makes the step, and which does not wait any more. -/
theorem Moves.judgements (moves : Moves request fault judged before stage next after) :
    ∀ row ∈ after.tables.judgements, row ∈ before.tables.judgements ∨
      stage.pending? = some row.submission ∧ next.pending? = none := by
  cases moves with
  | kept made saved =>
    obtain ⟨-, rfl⟩ := Tables.saveSubmission_ok saved
    exact fun row there => .inl there
  | first made saved accepted =>
    obtain ⟨-, rfl⟩ := Tables.saveJudgement_ok saved
    intro row there
    rcases List.mem_append.mp there with there | there
    · exact .inl there
    · obtain rfl := List.mem_singleton.mp there
      exact .inr ⟨rfl, rfl⟩
  | recorded made saved later =>
    obtain ⟨-, rfl⟩ := Tables.saveJudgement_ok saved
    intro row there
    rcases List.mem_append.mp there with there | there
    · exact .inl there
    · obtain rfl := List.mem_singleton.mp there
      exact .inr ⟨rfl, rfl⟩
  | _ => exact fun row there => .inl there

/-! ## Runs -/

theorem Pending.empty : Pending {} where
  isOpen := rfl
  known _ there := absurd there List.not_mem_nil
  unjudged _ there := absurd there List.not_mem_nil
  apart _ _ _ _ _ there := absurd (List.mem_of_getElem? there) List.not_mem_nil

/-- The next number is not that of a submission which waits already. -/
theorem Sound.not_next (sound : Sound run) {active : Active} (there : active ∈ run.active) :
    active.stage.pending? ≠ some (run.database.tables.lastSubmission + 1) := by
  intro waits
  obtain ⟨row, mem, same⟩ := (sound.agrees active there).exists_row waits
  have bound : row.id ≤ run.database.tables.lastSubmission :=
    sound.integral.submissionIds.bounded row.id (List.mem_map_of_mem mem)
  rw [same] at bound
  exact Int.not_le.mpr (Int.lt_succ _) bound

/-- No judgement is of the submission with the next number. -/
theorem Sound.not_judged (sound : Sound run) :
    ∀ row ∈ run.database.tables.judgements,
      row.submission ≠ run.database.tables.lastSubmission + 1 := by
  intro row there same
  obtain ⟨submission, mem, own, -⟩ := sound.integral.judgements row there
  have bound : submission.id ≤ run.database.tables.lastSubmission :=
    sound.integral.submissionIds.bounded submission.id (List.mem_map_of_mem mem)
  rw [own, same] at bound
  exact Int.not_le.mpr (Int.lt_succ _) bound

/-- After a step of a submission, those that wait are still without a judgement, and apart. -/
theorem Pending.step (pending : Pending run) (sound : Sound run) {index : Nat} {active : Active}
    (here : run.active[index]? = some active)
    (moves : Moves active.request fault judged run.database active.stage next after) :
    Pending { database := after, active := run.active.set index { active with stage := next } } where
  isOpen := moves.isOpen.trans pending.isOpen
  known := by
    intro other there
    rcases List.mem_or_eq_of_mem_set there with there | rfl
    · exact (pending.known other there).extends moves.extends
    · exact moves.known (pending.known active (List.mem_of_getElem? here))
  unjudged := by
    intro waiting there id waits row mem same
    obtain ⟨place, there⟩ := List.getElem?_of_mem there
    -- a new judgement is of the one that has made the step, which no longer waits
    rcases getElem?_step there with ⟨rfl, rfl⟩ | ⟨other, there⟩
    · rcases moves.judgements row mem with old | ⟨-, done⟩
      · rcases moves.pending? waits with before | rfl
        · exact pending.unjudged active (List.mem_of_getElem? here) id before row old same
        · exact sound.not_judged row old same
      · cases done.symm.trans waits
    · rcases moves.judgements row mem with old | ⟨own, -⟩
      · exact pending.unjudged waiting (List.mem_of_getElem? there) id waits row old same
      · rw [same] at own
        exact other (pending.apart index place active waiting id here there own waits)
  apart := by
    intro first second one two id there_ there waits_ waits
    -- the number that a step leads to was the submission's own, or nobody has had it
    have apart {place : Nat} {waiting : Active} {id : Id} (there : run.active[place]? = some waiting)
        (waits : waiting.stage.pending? = some id) (moved : next.pending? = some id) : index = place := by
      rcases moves.pending? moved with before | rfl
      · exact pending.apart index place active waiting id here there before waits
      · exact absurd waits (sound.not_next (List.mem_of_getElem? there))
    rcases getElem?_step there_ with ⟨rfl, rfl⟩ | ⟨-, there_⟩
    · rcases getElem?_step there with ⟨rfl, rfl⟩ | ⟨-, there⟩
      · rfl
      · exact apart there waits waits_
    · rcases getElem?_step there with ⟨rfl, rfl⟩ | ⟨-, there⟩
      · exact (apart there_ waits_ waits).symm
      · exact pending.apart first second one two id there_ there waits_ waits

/-- What happens next keeps the submissions that wait without a judgement, and apart. -/
theorem Pending.follow (pending : Pending run) (sound : Sound run)
    (happened : run.next? event = some later) : Pending later := by
  cases Run.follows_of_next? happened with
  | @came request =>
    have old {place : Nat} {waiting : Active} {id : Id}
        (there : (run.active ++ [({ request } : Active)])[place]? = some waiting)
        (waits : waiting.stage.pending? = some id) : run.active[place]? = some waiting := by
      rcases getElem?_come there with there | ⟨-, rfl⟩
      · exact there
      · cases waits
    refine ⟨pending.isOpen, ?_, ?_, ?_⟩
    · intro other there
      rcases List.mem_append.mp there with there | there
      · exact pending.known other there
      · obtain rfl := List.mem_singleton.mp there
        trivial
    · intro waiting there id waits
      obtain ⟨place, there⟩ := List.getElem?_of_mem there
      exact pending.unjudged waiting (List.mem_of_getElem? (old there waits)) id waits
    · intro first second one other id there_ there waits_ waits
      exact pending.apart first second one other id (old there_ waits_) (old there waits) waits_ waits
  | stepped here free step moves => exact pending.step sound here moves
  | seeded done =>
    have same := Tables.sameRows_seed done
    have extends_ := Tables.extends_of_seed done
    refine ⟨pending.isOpen, fun other there => (pending.known other there).extends extends_, ?_, pending.apart⟩
    intro waiting there id waits row mem
    rw [same.judgements] at mem
    exact pending.unjudged waiting there id waits row mem
  | unseeded => exact pending

/-- **A submission that is kept has no judgement until its own is kept**, wherever a run has come to. -/
theorem pending_of_after? {events : List Event} (ran : Run.after? {} events = some run) : Pending run := by
  refine Run.after?_induction (motive := fun _ run => Pending run) .empty ?_ ran
  intro events run event next ran pending happened
  exact pending.follow (sound_of_after? ran) happened

/-- **The store refuses nothing that a submission asks of it**, wherever a run has come to. Where a call
comes to nothing without a fault, the cases and limits of the problem do not fit into a job. -/
theorem unfit_of_refused (pending : Pending run) (sound : Sound run) {active : Active}
    (there : active ∈ run.active) {cause : Fault}
    (refused : active.stage.afterCall active.request run.database = .error cause) :
    ∃ language submission cases limits, active.stage = .readLimits language submission cases ∧
      run.database.tables.limits active.request.problem = .ok limits ∧
      jobOf active.request language cases limits = .error cause := by
  have opened := pending.isOpen
  have known := pending.known active there
  have agrees := sound.agrees active there
  have unjudged := pending.unjudged active there
  obtain ⟨request, stage⟩ := active
  cases stage with
  | findUser =>
    simp only [Stage.afterCall, Stage.afterRead, Database.query, opened, ↓reduceIte] at refused
    cases refused
  | findProblem =>
    simp only [Stage.afterCall, Stage.afterRead, Database.query, opened, ↓reduceIte] at refused
    cases refused
  | keep language =>
    have saved : run.database.tables.saveSubmission (request.kept language) = _ :=
      Tables.saveSubmission_of_known known.1 known.2
    unfold Request.kept at saved
    simp only [Stage.afterCall, Database.change, opened, ↓reduceIte, saved] at refused
    cases refused
  | readCases language submission =>
    simp only [Stage.afterCall, Stage.afterRead, Database.query, opened, ↓reduceIte] at refused
    cases refused
  | readLimits language submission cases =>
    obtain ⟨row, mem, -, -, same⟩ := agrees
    have posed : run.database.tables.problemExists request.problem = true := by
      rw [← same]
      exact (sound.integral.submissions row mem).2
    obtain ⟨limits, limited⟩ := Tables.exists_limits posed
    exact ⟨language, submission, cases, limits, rfl, limited, jobOf_of_refused refused opened limited⟩
  | findPrior judgement result =>
    simp only [Stage.afterCall, Stage.afterRead, Database.query, opened, ↓reduceIte] at refused
    cases refused
  | record judgement result solved =>
    obtain ⟨row, mem, same, -⟩ := agrees
    have saved := Tables.saveJudgement_of_unjudged (unjudged judgement.submission rfl) mem same
    simp only [Stage.afterCall, Database.change, opened, ↓reduceIte, saved] at refused
    cases refused
  | count judgement result id =>
    simp only [Stage.afterCall, Database.change, opened, ↓reduceIte] at refused
    cases refused
  | dispatch | wait | ended => cases refused

end CodeJudge.Coordinator
