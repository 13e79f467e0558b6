import CodeJudge.Proofs.Coordinator.Run
import CodeJudge.Proofs.Store.Posing

/-!
# How problems are posed along a run

Which seeds have come out well, and how they have posed a problem, is read off the events of a run
(`Run.posings`). The tables hold what the latest of them says, wherever the run has come to and whatever
submissions have been doing in between (`posing?_of_after?`).
-/

namespace CodeJudge.Coordinator

open Store (Database Id Posing Tables)

/-! ## What events say of a problem -/

namespace Run

/-- How an event poses a problem, one entry after another: a seed that comes out well, as it lists the
problem, and nothing else. -/
def posed (run : Run) (problem : Id) : Event → List Posing
  | .seed read users problems =>
    match run.database.change fun tables => ((), ·) <$> tables.seed read users problems with
    | .ok _ => Posing.listed read problems problem
    | .error _ => []
  | _ => []

/-- How events pose a problem, one after another. -/
def posings (run : Run) (problem : Id) : List Event → List Posing
  | [] => []
  | event :: rest =>
    match run.next? event with
    | some next => run.posed problem event ++ next.posings problem rest
    | none => []

theorem posings_append_event {run last next : Run} {events : List Event} {event : Event} (problem : Id)
    (ran : run.after? events = some last) (happened : last.next? event = some next) :
    run.posings problem (events ++ [event]) = run.posings problem events ++ last.posed problem event := by
  induction events generalizing run with
  | nil =>
    cases ran
    simp only [List.nil_append, posings, happened, List.append_nil]
  | cons first rest ih =>
    obtain ⟨between, earlier, later⟩ := Option.bind_eq_some_iff.mp ran
    simp only [List.cons_append, posings, earlier, ih later, List.append_assoc]

end Run

/-! ## What the tables hold -/

theorem Moves.posing? {request : Request} {fault : Option Fault} {judged : Except Fault JobResult}
    {before after : Database} {stage next : Stage} (moves : Moves request fault judged before stage next after)
    (problem : Id) : after.tables.posing? problem = before.tables.posing? problem := by
  cases moves with
  | kept made saved =>
    obtain ⟨-, rfl⟩ := Tables.saveSubmission_ok saved
    rfl
  | first made saved accepted =>
    obtain ⟨-, rfl⟩ := Tables.saveJudgement_ok saved
    rfl
  | recorded made saved later =>
    obtain ⟨-, rfl⟩ := Tables.saveJudgement_ok saved
    rfl
  | _ => rfl

/-- What happens next leaves a problem as it is posed by then. -/
theorem posing?_of_next? {run next : Run} {event : Event} (happened : run.next? event = some next)
    (problem : Id) :
    next.database.tables.posing? problem =
      (run.posed problem event).getLast?.or (run.database.tables.posing? problem) := by
  cases event with
  | come request =>
    cases happened
    rfl
  | step index fault judged =>
    cases Run.follows_of_next? happened with
    | stepped here free step moves => exact moves.posing? problem
  | seed read users problems =>
    cases happened
    cases changed : run.database.change fun tables => ((), ·) <$> tables.seed read users problems with
    | error fault =>
      simp only [Run.seed, Run.posed, changed]
      rfl
    | ok answer =>
      obtain ⟨told, database⟩ := answer
      obtain ⟨-, tables, done, rfl⟩ := Database.change_ok changed
      simp only [Run.seed, Run.posed, changed]
      cases seeded : run.database.tables.seed read users problems with
      | error fault =>
        rw [seeded] at done
        cases done
      | ok tables =>
        rw [seeded] at done
        cases done
        exact Tables.posing?_seed seeded problem

/-- **A problem is posed as the latest seed that lists it says**, wherever a run has come to. -/
theorem posing?_of_after? {events : List Event} {run : Run} (ran : Run.after? {} events = some run)
    (problem : Id) :
    run.database.tables.posing? problem = (Run.posings {} problem events).getLast? := by
  refine Run.after?_induction (motive := fun events run =>
    run.database.tables.posing? problem = (Run.posings {} problem events).getLast?) rfl ?_ ran
  intro events run event next ran posed happened
  rw [posing?_of_next? happened, Run.posings_append_event problem ran happened, List.getLast?_append, posed]

end CodeJudge.Coordinator
