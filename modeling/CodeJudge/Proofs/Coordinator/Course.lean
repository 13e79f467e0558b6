import CodeJudge.Proofs.Coordinator.Alone
import CodeJudge.Proofs.Coordinator.Effect

/-!
# The course of a submission

What becomes of a submission that is alone, whose user is there, whose problem has limits and whose language
is supported, when no call of the store fails. Two things are left that can come out in more than one way:
whether the cases and the limits fit into a job, and what the judge answers to the job. `Course` has a rule
for each combination of them, with the answer, the store and the acts that come of it.

**The law** (`course_of_submit`). Every such submission takes one of these courses. The judge is asked in the
world that the submission was handed in in, since nothing before it touches the world.

**What it does not establish.** Anything of submissions among others, or of calls that fail.
-/

namespace CodeJudge.Coordinator

open Store (Database Limits)

variable {V W : Type}

/-! ## The world in which a job is judged -/

/-- A judge that answers in every world as another does in one. -/
def settled (judge : Job → StateM W (Except Fault JobResult)) (world : W) (job : Job) :
    StateM Unit (Except Fault JobResult) := return ((judge job).run world).1

variable {judge : Job → StateM W (Except Fault JobResult)} {faults : Faults} {request : Request}
variable {before after : Database} {stage next : Stage} {job : Job}

theorem answers_settled {world : W} {answer : Except Fault JobResult}
    (answers : Answers (settled judge world) job answer) : ((judge job).run world).1 = answer := by
  obtain ⟨_, same⟩ := answers
  exact same

/-- Where the job has been judged, none is left to judge. -/
theorem Stage.job?_of_isJudged (past : stage.isJudged = true) : stage.job? = none := by
  cases stage <;> first | rfl | cases past

/-- Once the job has been judged, or is judged in this step, it has been judged. -/
theorem isJudged_step (request : Request) (fault : Option Fault) (judged : Except Fault JobResult)
    (database : Database) (past : stage.isJudged = true ∨ stage.job?.isSome = true) :
    (stage.step request fault judged database).1.isJudged = true := by
  have moves := moves_step request fault judged database stage
  generalize (stage.step request fault judged database).1 = next at moves ⊢
  generalize (stage.step request fault judged database).2 = after at moves
  cases moves <;> first | rfl | exact past.elim nofun nofun

/-- After the judging, neither the judge nor the world makes a difference. -/
theorem advance_of_isJudged (judge : Job → StateM W (Except Fault JobResult))
    (other : Job → StateM V (Except Fault JobResult)) (faults : Faults) (request : Request) (count : Nat)
    (past : stage.isJudged = true) (database : Database) (trace : Trace) (world : W) (elsewhere : V) :
    ((advance judge faults request count (stage, database, trace)).run world).1 =
      ((advance other faults request count (stage, database, trace)).run elsewhere).1 := by
  induction count generalizing stage database trace with
  | zero => rfl
  | succ count ih =>
    simp only [advance, Stage.job?_of_isJudged past, run_bind, run_pure]
    exact ih (isJudged_step request _ _ database (.inl past)) _ _

/-- **A job is judged in the world that its submission was handed in in.** -/
theorem advance_settled (judge : Job → StateM W (Except Fault JobResult)) (faults : Faults)
    (request : Request) (count : Nat) (stage : Stage) (database : Database) (trace : Trace) (world : W) :
    ((advance judge faults request count (stage, database, trace)).run world).1 =
      ((advance (settled judge world) faults request count (stage, database, trace)).run ()).1 := by
  induction count generalizing stage database trace with
  | zero => rfl
  | succ count ih =>
    -- no step before the dispatch touches the world, and none after it asks the judge
    cases asks : stage.job? with
    | none =>
      simp only [advance, asks, run_bind, run_pure]
      exact ih _ _ _
    | some job =>
      have judged : stage.isJudged = true ∨ stage.job?.isSome = true := .inr (by rw [asks, Option.isSome_some])
      simp only [advance, asks, run_bind, settled, run_pure]
      exact advance_of_isJudged judge _ faults request count (isJudged_step request _ _ database judged) _ _ _ _

/-! ## The courses -/

/-- **What becomes of a submission** that nothing is wrong with but its job. `judged` tells what the judge
answers to a job. -/
inductive Course (judged : Job → Except Fault JobResult) (request : Request) (before : Database)
    (language : Language) (limits : Limits) : Except SubmitError Outcome → Database → List Act → Prop
  /-- There is no job. -/
  | unfit {fault : Fault}
      (why : jobOf request language (before.tables.casesOf request.problem) limits = .error fault) :
      Course judged request before language limits (.error (.system fault))
        { before with tables := request.saved before.tables language } asking
  /-- The judge does not answer. -/
  | undelivered {job : Job} {fault : Fault}
      (made : jobOf request language (before.tables.casesOf request.problem) limits = .ok job)
      (came : judged job = .error fault) :
      Course judged request before language limits (.error (.system fault))
        { before with tables := request.saved before.tables language } (asking ++ [.dispatch job])
  /-- The judgement is kept. -/
  | delivered {job : Job} {result : JobResult}
      (made : jobOf request language (before.tables.casesOf request.problem) limits = .ok job)
      (came : judged job = .ok result)
      (later : result.verdict = .accepted →
        before.tables.priorAccepted request.user request.problem = true) :
      Course judged request before language limits
        (.ok (outcomeOf (request.judgement before.tables result) result (before.tables.lastJudgement + 1)))
        { before with tables := request.judged before.tables language result } ((agenda job).take 8)
  /-- The judgement is kept and credited. -/
  | credited {job : Job} {result : JobResult}
      (made : jobOf request language (before.tables.casesOf request.problem) limits = .ok job)
      (came : judged job = .ok result) (accepted : result.verdict = .accepted)
      (unsolved : before.tables.priorAccepted request.user request.problem = false) :
      Course judged request before language limits
        (.ok (outcomeOf (request.judgement before.tables result) result (before.tables.lastJudgement + 1)))
        { before with tables := request.credited before.tables language result } (agenda job)

variable {language : Language} {limits : Limits} {answer : Except SubmitError Outcome} {acts : List Act}

/-- Where the language is supported, a submission is kept in it. -/
theorem Admitted.language_eq {own : Language} {tables : Store.Tables} (admitted : Admitted request tables own)
    (parsed : Language.parse? request.submission.language = some language) : own = language :=
  Option.some.inj (admitted.parsed.symm.trans parsed)

/-- A job is made of the cases and the limits that the problem has. -/
theorem Posed.jobOf_eq {tables : Store.Tables} (posed : Posed request tables language job)
    (limited : tables.limits request.problem = .ok limits) :
    jobOf request language (tables.casesOf request.problem) limits = .ok job := by
  obtain ⟨own, same, made⟩ := posed.made
  cases same.symm.trans limited
  exact made

/-- What is reached at the end is reached by a course. -/
theorem Reached.course {world : W}
    (reached : Reached (settled judge world) (fun _ => none) request before (.ended answer) after acts)
    (opened : before.isOpen = true) (keyed : before.tables.Keyed)
    (user : before.tables.userExists request.user = true)
    (parsed : Language.parse? request.submission.language = some language)
    (limited : before.tables.limits request.problem = .ok limits) :
    Course (fun job => ((judge job).run world).1) request before language limits answer after acts := by
  cases reached with
  | noUser unknown => cases unknown.symm.trans user
  | noProblem _ unposed => cases unposed.symm.trans (Store.Tables.problemExists_of_limits limited)
  | noLanguage _ _ strange => cases strange.symm.trans parsed
  | recorded judged later =>
    obtain rfl := judged.language_eq parsed
    exact .delivered (judged.jobOf_eq limited) (answers_settled judged.answered) later
  | counted judged accepted unsolved =>
    obtain rfl := judged.language_eq parsed
    exact .credited (judged.jobOf_eq limited) (answers_settled judged.answered) accepted unsolved
  | failed reached asks why =>
    cases why with
    | stopped _ why => cases why
    | undelivered why =>
      cases asks
      cases reached with
      | posed posed =>
        obtain rfl := posed.language_eq parsed
        exact .undelivered (posed.jobOf_eq limited) (answers_settled why)
    | refused calls _ refused =>
      cases asks.symm.trans (act?_of_call? calls)
      cases reached.cause_of_afterCall calls opened keyed refused with
      | stopped why => cases why
      | unfit =>
        cases reached with
        | read admitted =>
          obtain rfl := admitted.language_eq parsed
          exact .unfit (jobOf_of_refused refused opened limited)
        | _ => cases calls

/-- **Every submission takes one of the courses.** -/
theorem course_of_submit (judge : Job → StateM W (Except Fault JobResult)) (world : W)
    (opened : before.isOpen = true) (keyed : before.tables.Keyed)
    (user : before.tables.userExists request.user = true)
    (parsed : Language.parse? request.submission.language = some language)
    (limited : before.tables.limits request.problem = .ok limits) :
    ∃ answer after trace,
      ((submit judge (fun _ => none) request before).run world).1 = (answer, after, trace) ∧
      Course (fun job => ((judge job).run world).1) request before language limits answer after trace.acts := by
  obtain ⟨answer, after, trace, ran, reached⟩ :=
    reached_of_submit (settled judge world) (fun _ => none) request before ()
  refine ⟨answer, after, trace, ?_, reached.course opened keyed user parsed limited⟩
  rw [← ran]
  simp only [submit, run_bind, run_pure, advance_settled judge]

end CodeJudge.Coordinator
