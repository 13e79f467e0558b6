import CodeJudge.Proofs.Coordinator.Run
import CodeJudge.Proofs.Store.Rows

/-!
# Sound keys

What is said of a submission that is alone takes the keys of the store to be sound. They are, wherever
seeds and submissions have led, in any order and with any faults.
-/

namespace CodeJudge.Coordinator

open Store (Database Tables)

variable {request : Request} {fault : Option Fault} {judged : Except Fault JobResult}
variable {stage next : Stage} {before after : Database}

/-- Every step of a submission leaves the keys sound. -/
theorem Moves.keyed (moves : Moves request fault judged before stage next after)
    (keyed : before.tables.Keyed) : after.tables.Keyed := by
  cases moves with
  | kept made saved =>
    obtain ⟨-, rfl⟩ := Tables.saveSubmission_ok saved
    exact keyed.withSubmission _
  | first made saved accepted => exact keyed.saveJudgement saved
  | recorded made saved later => exact keyed.saveJudgement saved
  | counted made => exact keyed.incrementSolved _
  | _ => exact keyed

/-- **The keys are sound wherever a run has come to.** -/
theorem keyed_of_after? {events : List Event} {run : Run}
    (ran : Run.after? {} events = some run) : run.database.tables.Keyed := by
  refine Run.after?_induction (motive := fun _ run => run.database.tables.Keyed) .empty ?_ ran
  intro events run event next ran keyed happened
  cases Run.follows_of_next? happened with
  | came => exact keyed
  | stepped here free step moves => exact moves.keyed keyed
  | seeded done => exact (Tables.sameRows_seed done).keyed keyed
  | unseeded => exact keyed

end CodeJudge.Coordinator
