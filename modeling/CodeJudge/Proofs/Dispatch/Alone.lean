import CodeJudge.Proofs.Actions
import CodeJudge.Proofs.Dispatch.Run

/-!
# A dispatch alone

A dispatch that no other comes between is a run of one dispatch: it takes the numbers that follow where the
counter stands, goes on from call to call as in a run, with what the calls have answered, and comes to the
same end (`dispatch_is_run`). So dispatches that are made one after another are a run of them, and what is
known of all runs is known of them.
-/

namespace CodeJudge.Dispatch

variable {W : Type} {policy : Policy}

namespace Run

/-- A run with one more dispatch, at a stage. -/
def beside (run : Run) (stage : Stage) : Run := { run with active := run.active ++ [stage] }

/-- The run after a call to the instance whose turn is next. -/
def called (run : Run) (count : Nat) : Run :=
  { run with counter := run.counter + 1, places := slot run.counter count :: run.places }

theorem getElem?_beside {run : Run} {index : Nat} (last : run.active.length = index) (stage : Stage) :
    (run.beside stage).active[index]? = some stage := by
  rw [← last, beside, List.getElem?_concat_length]

theorem set_beside {run : Run} {index : Nat} (last : run.active.length = index) (stage moved : Stage) :
    (run.beside stage).set index moved = run.beside moved := by
  rw [← last, set, beside, beside, List.set_append_right _ _ (Nat.le_refl _), Nat.sub_self, List.set_cons_zero]

/-- Where one event happens, and others after it, all of them do. -/
theorem after?_cons {run between last : Run} {event : Event} {rest : List Event}
    (happened : run.next? policy event = some between) (went : between.after? policy rest = some last) :
    run.after? policy (event :: rest) = some last :=
  Option.bind_eq_some_iff.mpr ⟨between, happened, went⟩

end Run

section

variable (policy : Policy) (resolve : String → StateM W (Except Fault (List String)))
variable (call : String → Job → StateM W (Except Fault JobResult)) (job : Job)

/-- Whether an event tells what has been answered to the look-up, or to a call. -/
def Event.Tells : Event → Prop
  | .resolved _ answer => ∃ world, ((resolve policy.service).run world).1 = answer
  | .answered _ answer => ∃ address world, ((call address job).run world).1 = answer
  | .come | .take _ => True

/-- **What makes a run of a dispatch that is alone**: events of its own that lead to its answer and to the
counter that it leaves, beside whatever the others have come to. -/
structure IsRun (run : Run) (stage : Stage) (outcome : Except Fault JobResult × UInt64)
    (events : List Event) (last : Run) : Prop where
  ran : (run.beside stage).after? policy events = some (last.beside (.ended outcome.1))
  tells : ∀ event ∈ events, event.Tells policy resolve call job
  own : ∀ event ∈ events, event.index? = some run.active.length
  others : last.active = run.active
  counter : last.counter = outcome.2

end

variable {resolve : String → StateM W (Except Fault (List String))}
variable {call : String → Job → StateM W (Except Fault JobResult)} {job : Job}

namespace IsRun

variable {run last : Run} {outcome : Except Fault JobResult × UInt64} {events : List Event}
variable {stage : Stage} {instances : List String}

/-- A dispatch that has ended makes no more steps. -/
theorem ended (run : Run) (answer : Except Fault JobResult) :
    IsRun policy resolve call job run (.ended answer) (answer, run.counter) [] run :=
  ⟨rfl, nofun, nofun, rfl, rfl⟩

/-- One more step at the beginning. -/
theorem cons {event : Event} {between : Run} {moved : Stage}
    (happened : (run.beside stage).next? policy event = some (between.beside moved))
    (tells : event.Tells policy resolve call job) (own : event.index? = some run.active.length)
    (others : between.active = run.active)
    (rest : IsRun policy resolve call job between moved outcome events last) :
    IsRun policy resolve call job run stage outcome (event :: events) last where
  ran := Run.after?_cons happened rest.ran
  tells := List.forall_mem_cons.mpr ⟨tells, rest.tells⟩
  own := List.forall_mem_cons.mpr ⟨own, others ▸ rest.own⟩
  others := rest.others.trans others
  counter := rest.counter

/-- The look-up comes before what the dispatch makes of it. -/
theorem resolved {answer : Except Fault (List String)} (world : W)
    (looked : ((resolve policy.service).run world).1 = answer)
    (rest : IsRun policy resolve call job run (.ofResolved policy answer) outcome events last) :
    IsRun policy resolve call job run .resolve outcome (.resolved run.active.length answer :: events) last := by
  refine .cons ?_ ⟨world, looked⟩ rfl rfl rest
  simp only [Run.next?, Run.getElem?_beside rfl, Run.set_beside rfl]

/-- A call and its answer come before what the dispatch makes of the answer. -/
theorem attempted {fault : Fault} {left : Nat} {given : Except Fault JobResult} (address : String) (world : W)
    (answers : ((call address job).run world).1 = given)
    (rest : IsRun policy resolve call job (run.called instances.length) (.ofAnswer policy instances left given)
      outcome events last) :
    IsRun policy resolve call job run (.take instances fault (left + 1)) outcome
      (.take run.active.length :: .answered run.active.length given :: events) last := by
  have waits : IsRun policy resolve call job (run.called instances.length)
      (.call instances (slot run.counter instances.length) left) outcome
      (.answered run.active.length given :: events) last := by
    have same : (run.called instances.length).active.length = run.active.length := rfl
    refine .cons ?_ ⟨address, world, answers⟩ rfl rfl rest
    simp only [Run.next?, Run.getElem?_beside same, Run.set_beside same]
  have took : (run.beside (.take instances fault (left + 1))).next? policy (.take run.active.length) =
      some ((run.called instances.length).beside
        (.call instances (slot run.counter instances.length) left)) := by
    simp only [Run.next?, Run.getElem?_beside rfl, Run.set_beside rfl]
    rfl
  exact .cons took trivial rfl rfl waits

end IsRun

/-- Calls that are made until one succeeds are those of a run. -/
theorem attempt_is_run (instances : List String) (fault : Fault) (left : Nat) (run : Run) (world : W) :
    ∃ events last, IsRun policy resolve call job run (.before policy instances fault left)
      ((attempt policy call job instances fault left run.counter).run world).1 events last := by
  induction left generalizing fault run world with
  | zero => exact ⟨[], run, .ended run _⟩
  | succ left ih =>
    let address := instances.getD (slot run.counter instances.length) ""
    rw [attempt, run_bind]
    cases given : ((call address job).run world).1 with
    | ok result => exact ⟨_, _, .attempted address world given (.ended _ _)⟩
    | error cause =>
      obtain ⟨events, last, rest⟩ :=
        ih cause (run.called instances.length) ((call address job).run world).2
      exact ⟨_, _, .attempted address world given rest⟩

/-- **A dispatch alone is a run of it**, beside whatever other dispatches have come to. -/
theorem dispatch_is_run (run : Run) (world : W) :
    ∃ events last, IsRun policy resolve call job run .resolve
      ((dispatch policy resolve call job run.counter).run world).1 events last := by
  rw [dispatch, run_bind]
  cases looked : ((resolve policy.service).run world).1 with
  | error fault => exact ⟨_, _, .resolved world looked (.ended run _)⟩
  | ok instances =>
    cases instances with
    | nil => exact ⟨_, _, .resolved world looked (.ended run _)⟩
    | cons first rest =>
      have attempts : ∃ events last, IsRun policy resolve call job run
          (.before policy (first :: rest) noCall policy.tries) _ events last :=
        attempt_is_run (first :: rest) noCall policy.tries run ((resolve policy.service).run world).2
      obtain ⟨events, last, attempts⟩ := attempts
      exact ⟨_, _, .resolved world looked attempts⟩

end CodeJudge.Dispatch
