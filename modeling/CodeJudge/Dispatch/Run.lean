import CodeJudge.Dispatch.Rotation

/-!
# Dispatches at once

Any number of dispatches that share the counter of the rotation. Taking a number and calling the
instance that it stands for are steps of their own, and the steps of the dispatches come in any order.
-/

namespace CodeJudge.Dispatch

/-- Where a dispatch stands. -/
inductive Stage
  /-- Looks up the instances. -/
  | resolve
  /-- Takes a number for its next call, with so many left. -/
  | take (instances : List String) (last : Fault) (left : Nat)
  /-- Waits for the answer of the instance at a place. -/
  | call (instances : List String) (place left : Nat)
  | ended (answer : Except Fault JobResult)

/-- The counter, the places that calls have gone to, and the dispatches in the order in which they
came. Ended ones stay. -/
structure Run where
  counter : UInt64 := 0
  /-- The places of all calls, the latest first. -/
  places : List Nat := []
  active : List Stage := []

/-- Something that happens. -/
inductive Event
  /-- A dispatch begins. -/
  | come
  /-- The dispatch at an index learns the instances. -/
  | resolved (index : Nat) (answer : Except Fault (List String))
  /-- The dispatch at an index takes a number. -/
  | take (index : Nat)
  /-- The dispatch at an index gets the answer to its call. -/
  | answered (index : Nat) (answer : Except Fault JobResult)

/-- The stage before a call, when so many are left. -/
def Stage.before (policy : Policy) (instances : List String) (last : Fault) : Nat → Stage
  | 0 => .ended (.error (policy.exhausted last))
  | left + 1 => .take instances last (left + 1)

/-- The stage once the instances are known. -/
def Stage.ofResolved (policy : Policy) : Except Fault (List String) → Stage
  | .error fault => .ended (.error fault)
  | .ok [] => .ended (.error policy.nobody)
  | .ok instances => .before policy instances noCall policy.tries

/-- The stage once a call has been answered. -/
def Stage.ofAnswer (policy : Policy) (instances : List String) (left : Nat) :
    Except Fault JobResult → Stage
  | .ok result => .ended (.ok result)
  | .error fault => .before policy instances fault left

namespace Run

/-- Sets the stage of a dispatch. -/
def set (run : Run) (index : Nat) (stage : Stage) : Run :=
  { run with active := run.active.set index stage }

/-- What happens next; none when it cannot happen. -/
def next? (policy : Policy) (run : Run) : Event → Option Run
  | .come => some { run with active := run.active ++ [.resolve] }
  | .resolved index answer =>
    match run.active[index]? with
    | some .resolve => some (run.set index (.ofResolved policy answer))
    | _ => none
  | .take index =>
    match run.active[index]? with
    | some (.take instances _ (left + 1)) =>
      let place := slot run.counter instances.length
      some { run.set index (.call instances place left) with
        counter := run.counter + 1
        places := place :: run.places }
    | _ => none
  | .answered index answer =>
    match run.active[index]? with
    | some (.call instances _ left) => some (run.set index (.ofAnswer policy instances left answer))
    | _ => none

/-- The run after events one after another; none when one of them cannot happen. -/
def after? (policy : Policy) (run : Run) (events : List Event) : Option Run :=
  events.foldlM (next? policy) run

end Run

end CodeJudge.Dispatch
