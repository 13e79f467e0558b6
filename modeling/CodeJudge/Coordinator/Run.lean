import CodeJudge.Coordinator.Stage

/-!
# Submissions at once

Any number of submissions under way at the same time, and seeds between their steps. The steps come in
any order; only the lock keeps submissions apart, and it has room for one.
-/

namespace CodeJudge.Coordinator

open Store (Database)

/-- A submission under way. -/
structure Active where
  request : Request
  stage : Stage := .findUser

/-- The store, and the submissions in the order in which they came. Ended ones stay. -/
structure Run where
  database : Database := {}
  active : List Active := []

/-- Something that happens. -/
inductive Event
  /-- A submission comes. -/
  | come (request : Request)
  /-- The submission at an index makes its next step. -/
  | step (index : Nat) (fault : Option Fault) (judged : Except Fault JobResult)
  /-- Users and problems are brought in, with the files that can be read then. -/
  | seed (read : String → Except FileFault String) (users : List UserEntry)
      (problems : List ProblemEntry)

namespace Run

/-- Whether some submission holds the lock. -/
def isLocked (run : Run) : Bool := run.active.any (·.stage.holdsLock)

/-- Brings in users and problems; a seed that fails changes nothing. -/
def seed (run : Run) (read : String → Except FileFault String) (users : List UserEntry)
    (problems : List ProblemEntry) : Run :=
  match run.database.change fun tables => ((), ·) <$> tables.seed read users problems with
  | .ok ((), database) => { run with database }
  | .error _ => run

/-- What happens next; none when it cannot happen. -/
def next? (run : Run) : Event → Option Run
  | .come request => some { run with active := run.active ++ [{ request }] }
  | .step index fault judged =>
    match run.active[index]? with
    | none => none
    | some active =>
      if active.stage.takesLock && run.isLocked then none
      else
        let (stage, database) := active.stage.step active.request fault judged run.database
        some { database, active := run.active.set index { active with stage } }
  | .seed read users problems => some (run.seed read users problems)

/-- The run after events one after another; none when one of them cannot happen. -/
def after? (run : Run) (events : List Event) : Option Run := events.foldlM next? run

end Run

end CodeJudge.Coordinator
