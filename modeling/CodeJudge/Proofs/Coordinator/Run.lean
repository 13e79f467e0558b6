import CodeJudge.Coordinator.Run
import CodeJudge.Proofs.Coordinator.Stage
import CodeJudge.Proofs.Runs

/-!
# Runs of submissions

What can happen next in a run is said once, by the rules of `Follows`; `after?_induction` carries a
property from a fresh store along everything that happens.
-/

namespace CodeJudge.Coordinator

open Store (Database Tables)

/-! ## What can happen next -/

namespace Run

/-- **What an event does to a run.** -/
inductive Follows (run : Run) : Event → Run → Prop
  | came {request : Request} :
      Follows run (.come request) { run with active := run.active ++ [{ request }] }
  /-- A submission makes its next step, but does not take the lock from another. -/
  | stepped {index : Nat} {fault : Option Fault} {judged : Except Fault JobResult} {active : Active}
      {stage : Stage} {database : Database} (here : run.active[index]? = some active)
      (free : active.stage.takesLock = true → run.isLocked = false)
      (step : active.stage.step active.request fault judged run.database = (stage, database))
      (moves : Moves active.request fault judged run.database active.stage stage database) :
      Follows run (.step index fault judged)
        { database, active := run.active.set index { active with stage } }
  | seeded {read : String → Except FileFault String} {users : List UserEntry}
      {problems : List ProblemEntry} {tables : Tables}
      (done : run.database.tables.seed read users problems = .ok tables) :
      Follows run (.seed read users problems)
        { run with database := { run.database with tables } }
  | unseeded {read : String → Except FileFault String} {users : List UserEntry}
      {problems : List ProblemEntry} : Follows run (.seed read users problems) run

/-- Everything that happens follows one of the rules. -/
theorem follows_of_next? {run next : Run} {event : Event} (happened : run.next? event = some next) :
    Follows run event next := by
  cases event with
  | come request =>
    cases happened
    exact .came
  | step index fault judged =>
    cases here : run.active[index]? with
    | none => simp only [next?, here, reduceCtorEq] at happened
    | some active =>
      simp only [next?, here] at happened
      split at happened
      · cases happened
      · rename_i free
        cases happened
        refine .stepped here (fun takes => ?_) rfl (moves_step ..)
        simpa only [takes, Bool.true_and, Bool.not_eq_true] using free
  | seed read users problems =>
    cases happened
    unfold seed
    split
    · rename_i database changed
      obtain ⟨-, tables, done, rfl⟩ := Database.change_ok changed
      cases seeded : run.database.tables.seed read users problems with
      | error fault =>
        rw [seeded] at done
        cases done
      | ok tables =>
        rw [seeded] at done
        cases done
        exact .seeded seeded
    · exact .unseeded

/-! ## Along a run -/

/-- **Induction along a run**: what holds of a fresh store, and is carried on by everything that
happens, holds wherever a run has come to. -/
theorem after?_induction {motive : List Event → Run → Prop} (start : motive [] {})
    (follow : ∀ {events run event next}, after? {} events = some run → motive events run →
      run.next? event = some next → motive (events ++ [event]) next)
    {events : List Event} {run : Run} (ran : after? {} events = some run) : motive events run :=
  foldlM_induction start follow ran

end Run

end CodeJudge.Coordinator
