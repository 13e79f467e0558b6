import CodeJudge.Proofs.Coordinator.Job
import CodeJudge.Proofs.Coordinator.Pending
import CodeJudge.Proofs.Coordinator.Posing
import CodeJudge.Proofs.Coordinator.Submit
import Mathlib.Data.List.Count

/-!
# A submission among others

A submission is followed from where it comes, through its steps, among those of other submissions and with
seeds in between. Where nothing comes in its way (`Undisturbed`), it asks for the job that its problem makes
of it and for no other (`Request.jobFor`), it does not fail, and after ten steps it has its outcome, made of
the answer to that job (`outcome_of_undisturbed`).

What is carried from stage to stage is `Carried`; the rest of what a step needs is known of every run.
-/

namespace CodeJudge.Coordinator

open Store (Database Id Limits CaseRow Posing Tables)

/-! ## The job of a submission -/

/-- Whether a problem as it is posed makes a job: there is a case, no limit is zero, and no number is too
large for a job. -/
structure Judgeable (posing : Posing) : Prop where
  cases : 1 ≤ posing.cases.length ∧ posing.cases.length ≤ 2147483647
  time : 1 ≤ posing.limits.time ∧ posing.limits.time ≤ 2147483647
  memory : 1 ≤ posing.limits.memory ∧ posing.limits.memory ≤ 2147483647

/-- The job that a submission becomes where its problem is posed so. -/
def Request.jobFor (request : Request) (language : Language) (posing : Posing) : Job where
  user := request.submission.user
  language
  source := request.submission.source
  inputs := posing.cases.map (·.1)
  expected := posing.cases.map (·.2)
  timeLimit := .ofNat posing.limits.time
  memoryLimit := .ofNat posing.limits.memory
  total := .ofNat posing.cases.length

variable {request : Request} {language : Language} {posing : Posing}

/-- Cases that are read as they were posed make the job. -/
theorem jobOf_eq (fits : Judgeable posing) {cases : List CaseRow}
    (read : cases.map (fun row => (row.input, row.expected)) = posing.cases) :
    jobOf request language cases posing.limits = .ok (request.jobFor language posing) := by
  have word {n : Nat} (small : n ≤ 2147483647) : (Int32.ofNat n).toInt = n :=
    Int32.toInt_ofNat_of_lt (Nat.lt_succ_of_le small)
  have length : posing.cases.length = cases.length := by
    rw [← read, List.length_map]
  refine jobOf_eq_ok_iff.mpr ⟨rfl, rfl, rfl, ?_, ?_, ?_, word fits.time.2, word fits.memory.2⟩
  · show posing.cases.map (·.1) = _
    rw [← read, List.map_map]
    rfl
  · show posing.cases.map (·.2) = _
    rw [← read, List.map_map]
    rfl
  · rw [← length]
    exact word fits.cases.2

/-! ## From stage to stage -/

/-- **What a submission takes along** where nothing comes in its way: its language, then the cases as they are
posed, then the job, then the result, then the outcome that is made of the result. -/
def Carried (request : Request) (language : Language) (posing : Posing) (result : JobResult) : Stage → Prop
  | .findUser | .findProblem => True
  | .keep own | .readCases own _ => own = language
  | .readLimits own _ cases =>
    own = language ∧ cases.map (fun row => (row.input, row.expected)) = posing.cases
  | .dispatch _ job => job = request.jobFor language posing
  | .wait judgement came | .findPrior judgement came | .record judgement came _ | .count judgement came _ =>
    came = result ∧ judgement = judgementOf request judgement.submission result
  | .ended answer => ∃ submission id,
    answer = .ok (outcomeOf (judgementOf request submission result) result id)

/-- Whether the store is asked about the problem next. -/
def Stage.asksProblem : Stage → Bool
  | .findProblem | .readCases _ _ | .readLimits _ _ _ => true
  | _ => false

variable {result : JobResult} {judged : Except Fault JobResult} {before after : Database}
variable {stage next : Stage}

theorem posed_of_posing? {tables : Tables} {problem : Id} (posed : tables.posing? problem = some posing) :
    tables.problemExists problem = true ∧ tables.limits problem = .ok posing.limits ∧
      (tables.casesOf problem).map (fun row => (row.input, row.expected)) = posing.cases := by
  obtain ⟨row, found, rfl⟩ := Option.map_eq_some_iff.mp posed
  have limited : tables.limits problem = .ok ⟨row.timeLimit, row.memoryLimit⟩ := by
    rw [Tables.limits, found]
  exact ⟨Tables.problemExists_of_limits limited, limited, rfl⟩

/-- A step in whose way nothing comes takes along what is to be. -/
theorem Moves.carried (moves : Moves request none judged before stage next after)
    (carried : Carried request language posing result stage) (fits : Judgeable posing)
    (user : before.tables.userExists request.user = true)
    (parsed : Language.parse? request.submission.language = some language)
    (posed : stage.asksProblem = true → before.tables.posing? request.problem = some posing)
    (accepts : ∀ cause, stage.afterCall request before = .error cause →
      ∃ own submission cases limits, stage = .readLimits own submission cases ∧
        before.tables.limits request.problem = .ok limits ∧ jobOf request own cases limits = .error cause)
    (judges : stage.job? = some (request.jobFor language posing) → judged = .ok result) :
    Carried request language posing result next := by
  cases moves with
  | failed calls why =>
    -- all that the store could refuse is a job that does not fit, and what is posed fits
    rcases why with stopped | ⟨-, refused⟩
    · cases stopped
    · obtain ⟨own, submission, cases, limits, rfl, limited, unfit⟩ := accepts _ refused
      obtain ⟨-, posedLimits, -⟩ := posed_of_posing? (posed rfl)
      obtain ⟨rfl, read⟩ := carried
      cases limited.symm.trans posedLimits
      cases unfit.symm.trans (jobOf_eq fits read)
  | foundUser made known => trivial
  | noUser made unknown => cases unknown.symm.trans user
  | foundProblem made known own => exact Option.some.inj (own.symm.trans parsed)
  | noLanguage made known strange => cases strange.symm.trans parsed
  | noProblem made unknown =>
    obtain ⟨there, -⟩ := posed_of_posing? (posed rfl)
    cases unknown.symm.trans there
  | kept made saved => exact carried
  | readCases made =>
    obtain ⟨-, -, read⟩ := posed_of_posing? (posed rfl)
    exact ⟨carried, read⟩
  | readLimits made limited made_ =>
    obtain ⟨-, posedLimits, -⟩ := posed_of_posing? (posed rfl)
    obtain ⟨rfl, read⟩ := carried
    cases limited.symm.trans posedLimits
    exact Except.ok.inj (made_.symm.trans (jobOf_eq fits read))
  | undelivered came =>
    obtain rfl : _ = request.jobFor language posing := carried
    cases came.symm.trans (judges rfl)
  | delivered came =>
    obtain rfl : _ = request.jobFor language posing := carried
    cases came.symm.trans (judges rfl)
    exact ⟨rfl, rfl⟩
  | locked => exact carried
  | foundPrior made => exact carried
  | first made saved accepted => exact carried
  | @recorded judgement _ _ id =>
    obtain ⟨rfl, own⟩ := carried
    exact ⟨judgement.submission, id, by rw [← own]⟩
  | @counted judgement _ id =>
    obtain ⟨rfl, own⟩ := carried
    exact ⟨judgement.submission, id, by rw [← own]⟩
  | still => exact carried

/-! ## Among others -/

/-- The submission that makes a step. -/
def Event.mover? : Event → Option Nat
  | .step index _ _ => some index
  | _ => none

/-- How many steps a submission makes. -/
def steps (index : Nat) (events : List Event) : Nat := (events.filterMap Event.mover?).count index

theorem steps_append_event (index : Nat) (events : List Event) (event : Event) :
    steps index (events ++ [event]) = steps index events + if event.mover? = some index then 1 else 0 := by
  unfold steps
  rw [List.filterMap_append, List.count_append]
  congr 1
  cases mover : event.mover? with
  | none => simp [mover]
  | some other => simp [mover, List.count_singleton]

/-- Whether a submission makes a step in a run: after which events, from which stage, whether its call
fails, and how its job is judged. -/
structure Makes (run : Run) (index : Nat) (events past : List Event) (stage : Stage) (fault : Option Fault)
    (judged : Except Fault JobResult) : Prop where
  split : ∃ future, events = past ++ .step index fault judged :: future
  stands : ∃ between active, run.after? past = some between ∧ between.active[index]? = some active ∧
    active.stage = stage

/-- **A submission in whose way nothing comes**: no call fails that it makes, its problem is posed so by the
latest seed whenever it asks the store about it, and its job is answered. -/
structure Undisturbed (earlier later : List Event) (run : Run) (index : Nat) (problem : Id) (posing : Posing)
    (deliver : Job → Except Fault JobResult) : Prop where
  unfailing : ∀ {past stage fault judged}, Makes run index later past stage fault judged → fault = none
  posed : ∀ {past stage fault judged}, Makes run index later past stage fault judged →
    stage.asksProblem = true → (Run.posings {} problem (earlier ++ past)).getLast? = some posing
  judged : ∀ {past stage fault judged job}, Makes run index later past stage fault judged →
    stage.job? = some job → judged = deliver job

/-- Where a submission stands that has come to a run: with what it takes along, and with no more steps to make
than it has not made. -/
def Underway (request : Request) (language : Language) (posing : Posing) (result : JobResult) (index : Nat)
    (past : List Event) (run : Run) : Prop :=
  ∃ stage, run.active[index]? = some ⟨request, stage⟩ ∧ Carried request language posing result stage ∧
    stage.left ≤ stages - steps index past

/-- What happens without a step of a submission leaves it where it stands. -/
theorem getElem?_of_idle {run next : Run} {event : Event} {index : Nat} {active : Active}
    (here : run.active[index]? = some active) (happened : run.next? event = some next)
    (idle : event.mover? ≠ some index) : next.active[index]? = some active := by
  cases Run.follows_of_next? happened with
  | came =>
    rw [List.getElem?_append_left (List.getElem?_eq_some_iff.mp here).1]
    exact here
  | stepped there =>
    rw [List.getElem?_set_ne fun same => idle (congrArg some same)]
    exact here
  | seeded => exact here
  | unseeded => exact here

section

variable {earlier later : List Event} {run last : Run} {index : Nat} {deliver : Job → Except Fault JobResult}

/-- A step of a submission in whose way nothing comes takes it on. -/
theorem Underway.step {past : List Event} {between next : Run} {fault : Option Fault}
    (underway : Underway request language posing result index past between)
    (undisturbed : Undisturbed earlier later run index request.problem posing deliver)
    (ran : Run.after? {} (earlier ++ past) = some between) (went : run.after? past = some between)
    (happened : between.next? (.step index fault judged) = some next)
    (split : ∃ future, later = past ++ .step index fault judged :: future) (fits : Judgeable posing)
    (user : between.database.tables.userExists request.user = true)
    (parsed : Language.parse? request.submission.language = some language)
    (delivers : deliver (request.jobFor language posing) = .ok result) :
    Underway request language posing result index (past ++ [.step index fault judged]) next := by
  obtain ⟨stage, here, carried, left⟩ := underway
  have makes : Makes run index later past stage fault judged := ⟨split, between, _, went, here, rfl⟩
  obtain rfl := undisturbed.unfailing makes
  cases Run.follows_of_next? happened with
  | @stepped _ _ _ active moved _ there free step moves =>
    cases here.symm.trans there
    have known : index < between.active.length := (List.getElem?_eq_some_iff.mp here).1
    refine ⟨moved, List.getElem?_set_self known, ?_, ?_⟩
    · refine moves.carried carried fits user parsed ?_ ?_ ?_
      · intro asks
        rw [posing?_of_after? ran]
        exact undisturbed.posed makes asks
      · intro cause refused
        exact unfit_of_refused (pending_of_after? ran) (sound_of_after? ran) (List.mem_of_getElem? here) refused
      · intro asks
        rw [undisturbed.judged makes asks, delivers]
    · have less : moved.left ≤ stage.left - 1 := moves.left_le
      have one : steps index (past ++ [.step index none judged]) = steps index past + 1 := by
        rw [steps_append_event, Event.mover?, if_pos rfl]
      omega

/-- **A submission in whose way nothing comes gets on**, whatever others do between its steps. -/
theorem underway_of_undisturbed (ran : Run.after? {} earlier = some run)
    (here : run.active[index]? = some { request }) (going : run.after? later = some last)
    (fits : Judgeable posing) (user : run.database.tables.userExists request.user = true)
    (parsed : Language.parse? request.submission.language = some language)
    (undisturbed : Undisturbed earlier later run index request.problem posing deliver)
    (delivers : deliver (request.jobFor language posing) = .ok result) :
    Underway request language posing result index later last := by
  -- the induction is on what has happened so far, of which the rest of `later` is yet to happen
  have along : ∀ future, later = later ++ future → Underway request language posing result index later last := by
    refine foldlM_induction (motive := fun past between => ∀ future, later = past ++ future →
      Underway request language posing result index past between) ?_ ?_ going
    · exact fun _ _ => ⟨.findUser, here, trivial, Nat.le_refl _⟩
    · intro past between event next went underway happened future split
      have splits : later = past ++ event :: future := by
        rw [split, List.append_assoc, List.singleton_append]
      have before := underway (event :: future) splits
      have whole : Run.after? {} (earlier ++ past) = some between := by
        rw [Run.after?, List.foldlM_append, ← Run.after?, ran]
        exact went
      by_cases mover : event.mover? = some index
      · cases event with
        | step other fault judged =>
          cases mover
          have known := ((sound_of_after? ran).extends_of_after? went).users _ user
          exact before.step undisturbed whole went happened ⟨future, splits⟩ fits known parsed delivers
        | come => cases mover
        | seed => cases mover
      · obtain ⟨stage, there, carried, left⟩ := before
        refine ⟨stage, getElem?_of_idle there happened mover, carried, ?_⟩
        rw [steps_append_event, if_neg mover]
        exact left
  exact along [] (List.append_nil _).symm

/-- **A submission in whose way nothing comes has its outcome after ten steps.** -/
theorem outcome_of_undisturbed (ran : Run.after? {} earlier = some run)
    (here : run.active[index]? = some { request }) (going : run.after? later = some last)
    (fits : Judgeable posing) (user : run.database.tables.userExists request.user = true)
    (parsed : Language.parse? request.submission.language = some language)
    (undisturbed : Undisturbed earlier later run index request.problem posing deliver)
    (delivers : deliver (request.jobFor language posing) = .ok result)
    (enough : stages ≤ steps index later) :
    ∃ submission id, last.active[index]? = some ⟨request,
      .ended (.ok (outcomeOf (judgementOf request submission result) result id))⟩ := by
  obtain ⟨stage, there, carried, left⟩ :=
    underway_of_undisturbed ran here going fits user parsed undisturbed delivers
  have none_ : stage.left = 0 := by omega
  obtain ⟨answer, rfl⟩ := Stage.ended_of_left none_
  obtain ⟨submission, id, rfl⟩ := carried
  exact ⟨submission, id, there⟩

end

end CodeJudge.Coordinator
