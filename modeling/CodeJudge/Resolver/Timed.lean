import CodeJudge.Resolver.Machine

/-!
# Resolving under a clock

The race when it is known at what time each case finishes, and how: all cases start at time zero, the
events come in the order of their times, and the resolver looks after every event whether it can
decide. Of events at one time, cases come before the budget, and cases in the order of their indices.
-/

namespace CodeJudge.Resolver

/-- How a case behaves under a clock: when it finishes and how, or none if it never does. -/
abbrev Script := List (Option (Nanos × Finish))

/-- The finishing times of the cases, with their indices from `index` on. -/
def finishes (index : Nat) : Script → List (Nanos × Step)
  | [] => []
  | none :: rest => finishes (index + 1) rest
  | some (time, how) :: rest => (time, .finish index how) :: finishes (index + 1) rest

/-- What happens, in the order of the times. -/
def events (script : Script) (budget : Nanos) : List (Nanos × Step) :=
  (finishes 0 script ++ [(budget, Step.ring)]).mergeSort fun a b => a.1 ≤ b.1

/-- The step by which the resolver decides, if it can: it prefers a failure to the permit, and the
permit to the timer. -/
def State.poll (state : State) : Option Step :=
  if !state.channel.isEmpty then some .receive
  else if state.permit then some .take
  else if state.timer then some .expire
  else none

/-- Lets events happen until the resolver decides, reads the tally and joins the cases. Gives the
time of the decision and the last state. -/
def race (cases : Nat) (state : State) : List (Nanos × Step) → Option (Nanos × State)
  | [] => none
  | (time, event) :: rest => do
    let state ← state.step? cases event
    match state.poll with
    | none => race cases state rest
    | some decide => return (time, ← state.run? cases [decide, .read, .join])

/-- The answer to a job under a clock, and the time it is given. -/
def timed (script : Script) (budget : Nanos) : Nanos × Resolution :=
  if counted script.length = 0 then (0, withoutCases)
  else
    match race script.length {} (events script budget) with
    | some (time, state) =>
      (time, (state.resolution? script.length).getD withoutCases)
    | none => (budget, withoutCases)

/-- The cases that have finished by a time. -/
def finishedBy (script : Script) (time : Nanos) : Nat :=
  script.countP fun finish => match finish with
    | some (finished, _) => finished ≤ time
    | none => false

end CodeJudge.Resolver
