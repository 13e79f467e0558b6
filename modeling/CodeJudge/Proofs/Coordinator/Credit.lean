import CodeJudge.Proofs.Coordinator.Run
import CodeJudge.Proofs.Store.Solved

/-!
# Credits

A submission whose judgement is the first to accept asks for a credit with its last call: the count of
solved problems is to go up by one. The credits of a run are read off its events, made or not, so that
what the counts ought to be can be said without the counts.
-/

namespace CodeJudge.Coordinator

open Store (Id Database Tables NewJudgement)

/-- The credit for a judgement: one more solved problem. -/
structure Credit where
  judgement : NewJudgement
  /-- The number of the judgement in the store. -/
  id : Id
  /-- Whether the count has gone up, rather than that the call has failed. -/
  made : Bool
  deriving DecidableEq, Repr

/-- Whose program a judgement is about, and for which problem. -/
def aim (judgement : NewJudgement) : Id × Id := (judgement.user, judgement.problem)

/-- Whose solution of which problem is credited. -/
def Credit.aim (credit : Credit) : Id × Id := Coordinator.aim credit.judgement

/-- The judgement that a submission asks credit for with its next call. -/
def Stage.owes? : Stage → Option (NewJudgement × Id)
  | .count judgement _ id => some (judgement, id)
  | _ => none

/-- Whether a submission has come to its end with an outcome. -/
def Stage.succeeded : Stage → Bool
  | .ended (.ok _) => true
  | _ => false

namespace Run

/-- The credit that an event asks for. -/
def credit? (run : Run) : Event → Option Credit
  | .step index fault judged => do
    let active ← run.active[index]?
    let (judgement, id) ← active.stage.owes?
    let (next, _) := active.stage.step active.request fault judged run.database
    return { judgement, id, made := next.succeeded }
  | _ => none

/-- The credits that events ask for, one after another. -/
def credits (run : Run) : List Event → List Credit
  | [] => []
  | event :: rest =>
    match run.next? event with
    | some next => (run.credit? event).toList ++ next.credits rest
    | none => []

/-- The last event of a run adds what it asks for. -/
theorem credits_append_event {run last next : Run} {events : List Event} {event : Event}
    (ran : run.after? events = some last) (happened : last.next? event = some next) :
    run.credits (events ++ [event]) = run.credits events ++ (last.credit? event).toList := by
  induction events generalizing run with
  | nil =>
    cases ran
    simp only [List.nil_append, credits, happened, List.append_nil]
  | cons first rest ih =>
    obtain ⟨between, earlier, later⟩ := Option.bind_eq_some_iff.mp ran
    simp only [List.cons_append, credits, earlier, ih later, List.append_assoc]

end Run

/-- A submission that does not come to its last call asks for no credit. -/
theorem credit?_of_idle {run : Run} {index : Nat} {active : Active}
    (here : run.active[index]? = some active) (idle : active.stage.owes? = none)
    (fault : Option Fault) (judged : Except Fault JobResult) :
    run.credit? (.step index fault judged) = none := by
  simp only [Run.credit?, here, idle, Option.bind_eq_bind, Option.bind_some, Option.bind_none]

/-- A submission at its last call asks for credit, and gets it when the call does not fail. -/
theorem credit?_of_owes {run : Run} {index : Nat} {active : Active} {judgement : NewJudgement}
    {number : Id} {fault : Option Fault} {judged : Except Fault JobResult} {next : Stage}
    {database : Database} (here : run.active[index]? = some active)
    (owes : active.stage.owes? = some (judgement, number))
    (step : active.stage.step active.request fault judged run.database = (next, database)) :
    run.credit? (.step index fault judged) = some ⟨judgement, number, next.succeeded⟩ := by
  simp only [Run.credit?, here, owes, step, Option.bind_eq_bind, Option.bind_some]
  rfl

/-- The problems that a user has been given credit for. -/
def granted (credits : List Credit) (user : Id) : List Id :=
  (credits.filter fun credit => credit.made && credit.aim.1 == user).map (·.aim.2)

/-- A credit adds to the problems of its user when it is made. -/
theorem length_granted_append (credits : List Credit) (credit : Credit) (user : Id) :
    ((granted (credits ++ [credit]) user).length : Int) =
      (granted credits user).length + if credit.made && credit.aim.1 == user then 1 else 0 := by
  rw [granted, List.filter_append, List.map_append, List.length_append, Int.natCast_add, granted]
  congr 1
  rw [List.filter_singleton, Bool.cond_eq_ite]
  split <;> rfl

/-- The problems that a user has solved without credit: a fault has come in the way of the credit for
the first judgement that accepts. -/
def missed (tables : Tables) (credits : List Credit) (user : Id) : Finset Id :=
  (tables.solved user).filter fun problem =>
    ∃ credit ∈ credits, credit.made = false ∧
      (tables.firstAccepted? user problem).map (·.id) = some credit.id

end CodeJudge.Coordinator
