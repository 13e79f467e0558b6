import CodeJudge.Job
import CodeJudge.Store.Fault

/-!
# Dispatching a job

The instances of a service are looked up for every job, and calls to them go round: each call takes
the next number of a counter that all jobs share, and goes to the instance at that place in the list,
counted round its end. A call that fails is followed by another, until the attempts are used up.
-/

namespace CodeJudge.Dispatch

/-- Whom jobs go to, and how often one is sent. -/
structure Policy where
  service : String
  /-- The number of calls that are made for one job; none counts as one. -/
  attempts : Nat
  deriving DecidableEq, Repr

/-- The number of calls that are made for one job. -/
def Policy.tries (policy : Policy) : Nat := max policy.attempts 1

/-- The place in a list of so many instances that a number of the counter stands for. -/
def slot (counter : UInt64) (count : Nat) : Nat := counter.toNat % count

/-- What is said when nobody can be called. -/
def Policy.nobody (policy : Policy) : Fault := .other ("no live instance of " ++ policy.service)

/-- What is said when every call has failed, the last of them in the given way. -/
def Policy.exhausted (policy : Policy) (last : Fault) : Fault :=
  .during ("all " ++ String.ofList (Decimal.digits policy.tries) ++ " dispatch attempts failed") last

/-- The fault before any call was made. -/
def noCall : Fault := .other "no attempt made"

variable {m : Type → Type} [Monad m]

/-- Makes calls to instances until one succeeds, at most `left`. -/
def attempt (policy : Policy) (call : String → Job → m (Except Fault JobResult)) (job : Job)
    (instances : List String) (last : Fault) : (left : Nat) → UInt64 →
      m (Except Fault JobResult × UInt64)
  | 0, counter => pure (.error (policy.exhausted last), counter)
  | left + 1, counter => do
    match ← call (instances.getD (slot counter instances.length) "") job with
    | .ok result => pure (.ok result, counter + 1)
    | .error fault => attempt policy call job instances fault left (counter + 1)

/-- Dispatches a job alone, and gives the counter that it leaves. -/
def dispatch (policy : Policy) (resolve : String → m (Except Fault (List String)))
    (call : String → Job → m (Except Fault JobResult)) (job : Job) (counter : UInt64) :
    m (Except Fault JobResult × UInt64) := do
  match ← resolve policy.service with
  | .error fault => pure (.error fault, counter)
  | .ok [] => pure (.error policy.nobody, counter)
  | .ok instances => attempt policy call job instances noCall policy.tries counter

end CodeJudge.Dispatch
