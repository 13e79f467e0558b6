import CodeJudge.Coordinator.Submit
import CodeJudge.Proofs.Coordinator.Stage
import CodeJudge.Proofs.Store.Rows

/-!
# How far a submission has come

A submission that is alone with the store goes through its stages in one order, and what it has left in
the store by then is known at each of them. `Reached` says this once: a rule for every stage, one for
every answer, and one for all failures, which leave the store as it stood at the stage that failed.

`reached_of_submit` is what the rest builds on: every submission comes to its end, and the end that it
comes to follows these rules.
-/

namespace CodeJudge.Coordinator

open Store (Id Database Tables NewJudgement)

variable {W : Type}

/-- What a judge may answer to a job. -/
def Answers (judge : Job → StateM W (Except Fault JobResult)) (job : Job)
    (answer : Except Fault JobResult) : Prop :=
  ∃ world, ((judge job).run world).1 = answer

/-! ## What is asked for, and what is left -/

/-- What a submission asks for before it has a job. -/
def asking : List Act :=
  [.call .userExists, .call .problemExists, .call .saveSubmission, .call .testCases, .call .limits]

/-- What a submission asks for from first to last, where nothing stops it. -/
def agenda (job : Job) : List Act :=
  asking ++
    [.dispatch job, .call .findPriorAccepted, .call .saveJudgement, .call .incrementSolvedCount]

namespace Request

variable (request : Request) (before : Tables) (language : Language) (result : JobResult)

/-- The tables with the submission. -/
def saved : Tables := before.withSubmission (request.kept language)

/-- The judgement of the submission. -/
def judgement : NewJudgement := judgementOf request (before.lastSubmission + 1) result

/-- The tables with the submission and its judgement. -/
def judged : Tables := (request.saved before language).withJudgement (request.judgement before result)

/-- The tables with the submission, its judgement, and the credit for it. -/
def credited : Tables := (request.judged before language result).incrementSolved request.user

end Request

/-! ## What is known on the way -/

/-- **What is known of a submission that is kept**: its user and its problem are there, and its language
is one that is supported. -/
structure Admitted (request : Request) (before : Tables) (language : Language) : Prop where
  known : before.userExists request.user = true
  posed : before.problemExists request.problem = true
  parsed : Language.parse? request.submission.language = some language

/-- **What is known of a submission that has its job.** -/
structure Posed (request : Request) (before : Tables) (language : Language) (job : Job) : Prop
    extends Admitted request before language where
  made : ∃ limits, before.limits request.problem = .ok limits ∧
    jobOf request language (before.casesOf request.problem) limits = .ok job

/-- **What is known of a submission whose job has been judged.** -/
structure Judged (judge : Job → StateM W (Except Fault JobResult)) (request : Request)
    (before : Tables) (language : Language) (job : Job) (result : JobResult) : Prop
    extends Posed request before language job where
  answered : Answers judge job (.ok result)

section

variable (judge : Job → StateM W (Except Fault JobResult)) (faults : Faults) (request : Request)

/-- **Why what a stage asks for does not come**: the call is not made, the store refuses it, or the job
is not judged. -/
inductive Fails (database : Database) : Stage → Fault → Prop
  | stopped {stage : Stage} {call : Call} {fault : Fault} (asks : stage.call? = some call)
      (why : faults call = some fault) : Fails database stage fault
  | refused {stage : Stage} {call : Call} {fault : Fault} (asks : stage.call? = some call)
      (made : faults call = none) (why : stage.afterCall request database = .error fault) :
      Fails database stage fault
  | undelivered {submission : Id} {job : Job} {fault : Fault} (why : Answers judge job (.error fault)) :
      Fails database (.dispatch submission job) fault

variable (before : Database)

/-- **How far a submission has come**: at which stage it stands, with which store, after which acts. -/
inductive Reached : Stage → Database → List Act → Prop
  | come : Reached .findUser before []
  | noUser (unknown : before.tables.userExists request.user = false) :
      Reached (.ended (.error (.userNotFound request.user))) before (asking.take 1)
  | foundUser (known : before.tables.userExists request.user = true) :
      Reached .findProblem before (asking.take 1)
  | noProblem (known : before.tables.userExists request.user = true)
      (unposed : before.tables.problemExists request.problem = false) :
      Reached (.ended (.error (.problemNotFound request.problem))) before (asking.take 2)
  | noLanguage (known : before.tables.userExists request.user = true)
      (posed : before.tables.problemExists request.problem = true)
      (strange : Language.parse? request.submission.language = none) :
      Reached (.ended (.error (.unsupportedLanguage request.submission.language))) before
        (asking.take 2)
  | admitted {language : Language} (admitted : Admitted request before.tables language) :
      Reached (.keep language) before (asking.take 2)
  | kept {language : Language} (admitted : Admitted request before.tables language) :
      Reached (.readCases language (before.tables.lastSubmission + 1))
        { before with tables := request.saved before.tables language } (asking.take 3)
  | read {language : Language} (admitted : Admitted request before.tables language) :
      Reached
        (.readLimits language (before.tables.lastSubmission + 1)
          (before.tables.casesOf request.problem))
        { before with tables := request.saved before.tables language } (asking.take 4)
  | posed {language : Language} {job : Job} (posed : Posed request before.tables language job) :
      Reached (.dispatch (before.tables.lastSubmission + 1) job)
        { before with tables := request.saved before.tables language } asking
  | judged {language : Language} {job : Job} {result : JobResult}
      (judged : Judged judge request before.tables language job result) :
      Reached (.wait (request.judgement before.tables result) result)
        { before with tables := request.saved before.tables language } ((agenda job).take 6)
  | locked {language : Language} {job : Job} {result : JobResult}
      (judged : Judged judge request before.tables language job result) :
      Reached (.findPrior (request.judgement before.tables result) result)
        { before with tables := request.saved before.tables language } ((agenda job).take 6)
  | sought {language : Language} {job : Job} {result : JobResult}
      (judged : Judged judge request before.tables language job result) :
      Reached
        (.record (request.judgement before.tables result) result
          (before.tables.priorAccepted request.user request.problem))
        { before with tables := request.saved before.tables language } ((agenda job).take 7)
  | recorded {language : Language} {job : Job} {result : JobResult}
      (judged : Judged judge request before.tables language job result)
      (later : result.verdict = .accepted →
        before.tables.priorAccepted request.user request.problem = true) :
      Reached
        (.ended (.ok (outcomeOf (request.judgement before.tables result) result
          (before.tables.lastJudgement + 1))))
        { before with tables := request.judged before.tables language result }
        ((agenda job).take 8)
  | first {language : Language} {job : Job} {result : JobResult}
      (judged : Judged judge request before.tables language job result)
      (accepted : result.verdict = .accepted)
      (unsolved : before.tables.priorAccepted request.user request.problem = false) :
      Reached
        (.count (request.judgement before.tables result) result (before.tables.lastJudgement + 1))
        { before with tables := request.judged before.tables language result }
        ((agenda job).take 8)
  | counted {language : Language} {job : Job} {result : JobResult}
      (judged : Judged judge request before.tables language job result)
      (accepted : result.verdict = .accepted)
      (unsolved : before.tables.priorAccepted request.user request.problem = false) :
      Reached
        (.ended (.ok (outcomeOf (request.judgement before.tables result) result
          (before.tables.lastJudgement + 1))))
        { before with tables := request.credited before.tables language result } (agenda job)
  /-- What a stage asks for does not come. -/
  | failed {stage : Stage} {database : Database} {acts : List Act} {act : Act} {fault : Fault}
      (reached : Reached stage database acts) (asks : stage.act? = some act)
      (why : Fails judge faults request database stage fault) :
      Reached (.ended (.error (.system fault))) database (acts ++ [act])

end

variable {judge : Job → StateM W (Except Fault JobResult)} {faults : Faults} {request : Request}
variable {before database after : Database} {stage next : Stage} {acts : List Act}
variable {judged : Except Fault JobResult}

/-! ## To the end -/

/-- A stage that calls the store asks for that call. -/
theorem act?_of_call? {call : Call} (asks : stage.call? = some call) :
    stage.act? = some (.call call) := by
  cases stage with
  | dispatch submission job => cases asks
  | _ => simp only [Stage.act?, asks, Option.map_some]

/-- A submission that has ended asks for nothing. -/
@[simp] theorem Stage.act?_ended (answer : Except SubmitError Outcome) :
    (Stage.ended answer).act? = none := rfl

/-- A step goes on from where a submission has come to. -/
theorem Reached.step (reached : Reached judge faults request before stage database acts)
    (moves : Moves request (stage.call?.bind faults) judged database stage next after)
    (answers : ∀ job, stage.job? = some job → Answers judge job judged) :
    Reached judge faults request before next after (acts ++ stage.act?.toList) := by
  cases moves with
  | @failed _ call cause asks why =>
    rw [act?_of_call? asks]
    rw [asks, Option.bind_some] at why
    rcases why with stopped | ⟨made, refused⟩
    · exact .failed reached (act?_of_call? asks) (.stopped asks stopped)
    · exact .failed reached (act?_of_call? asks) (.refused asks made refused)
  | foundUser made known =>
    cases reached
    exact .foundUser known
  | noUser made unknown =>
    cases reached
    exact .noUser unknown
  | foundProblem made posed parsed =>
    cases reached with
    | foundUser known => exact .admitted ⟨known, posed, parsed⟩
  | noLanguage made posed strange =>
    cases reached with
    | foundUser known => exact .noLanguage known posed strange
  | noProblem made unposed =>
    cases reached with
    | foundUser known => exact .noProblem known unposed
  | kept made saved =>
    cases reached with
    | admitted admitted =>
      obtain ⟨rfl, rfl⟩ := Tables.saveSubmission_ok saved
      exact .kept admitted
  | readCases made =>
    cases reached with
    | kept admitted => exact .read admitted
  | readLimits made limited fits =>
    cases reached with
    | read admitted => exact .posed ⟨admitted, _, limited, fits⟩
  | undelivered came =>
    subst came
    exact .failed reached rfl (.undelivered (answers _ rfl))
  | delivered came =>
    subst came
    cases reached with
    | posed posed => exact .judged ⟨posed, answers _ rfl⟩
  | locked =>
    cases reached with
    | judged judged => exact .locked judged
  | foundPrior made =>
    cases reached with
    | locked judged => exact .sought judged
  | first made saved accepted =>
    generalize solved : false = prior at reached
    cases reached with
    | sought judged =>
      obtain ⟨rfl, rfl⟩ := Tables.saveJudgement_ok saved
      exact .first judged accepted solved.symm
  | recorded made saved later =>
    cases reached with
    | sought judged =>
      obtain ⟨rfl, rfl⟩ := Tables.saveJudgement_ok saved
      exact .recorded judged later
  | counted made =>
    cases reached with
    | first judged accepted unsolved => exact .counted judged accepted unsolved
  | still => simpa only [Stage.act?_ended, Option.toList_none, List.append_nil] using reached

/-- How many steps a submission makes from a stage on, at most. -/
def Stage.left : Stage → Nat
  | findUser => 10
  | findProblem => 9
  | keep _ => 8
  | readCases _ _ => 7
  | readLimits _ _ _ => 6
  | dispatch _ _ => 5
  | wait _ _ => 4
  | findPrior _ _ => 3
  | record _ _ _ => 2
  | count _ _ _ => 1
  | ended _ => 0

/-- A submission of which no step is left has ended. -/
theorem Stage.ended_of_left {stage : Stage} (none_ : stage.left = 0) :
    ∃ answer, stage = .ended answer := by
  cases stage with
  | ended answer => exact ⟨answer, rfl⟩
  | _ => cases none_

/-- A step leaves one less. -/
theorem Moves.left_le {fault : Option Fault}
    (moves : Moves request fault judged database stage next after) :
    next.left ≤ stage.left - 1 := by
  cases moves with
  | failed => exact Nat.zero_le _
  | _ => exact Nat.le_of_ble_eq_true rfl

/-- Where there are steps to make, one is made, and the rest from there. The judge is asked where there
is a job. -/
theorem advance_succ (judge : Job → StateM W (Except Fault JobResult)) (faults : Faults)
    (request : Request) (count : Nat) (stage : Stage) (database : Database) (trace : Trace)
    (world : W) :
    ∃ judged between,
      (advance judge faults request (count + 1) (stage, database, trace)).run world =
        (advance judge faults request count
          ((stage.step request (stage.call?.bind faults) judged database).1,
            (stage.step request (stage.call?.bind faults) judged database).2,
            trace.add stage)).run between ∧
      ∀ job, stage.job? = some job → Answers judge job judged := by
  cases here : stage.job? with
  | none =>
    refine ⟨.error (.other "nothing to judge"), world, ?_, nofun⟩
    simp only [advance, here, run_bind, run_pure]
  | some job =>
    refine ⟨((judge job).run world).1, ((judge job).run world).2, ?_, ?_⟩
    · simp only [advance, here, run_bind]
    · rintro _ ⟨rfl⟩
      exact ⟨world, rfl⟩

/-- **Induction along a submission**: what holds where it starts, and is carried on by every step, holds at
its end, which comes when there are steps enough. -/
theorem advance_induction {motive : Stage → Database → List Act → Prop}
    (follow : ∀ {stage database acts judged}, motive stage database acts →
      (∀ job, stage.job? = some job → Answers judge job judged) →
      motive (stage.step request (stage.call?.bind faults) judged database).1
        (stage.step request (stage.call?.bind faults) judged database).2 (acts ++ stage.act?.toList))
    {count : Nat} {stage : Stage} {database : Database} (trace : Trace)
    (start : motive stage database trace.acts) (enough : stage.left ≤ count) (world : W) :
    ∃ answer after last,
      ((advance judge faults request count (stage, database, trace)).run world).1 =
        (.ended answer, after, last) ∧
      motive (.ended answer) after last.acts := by
  induction count generalizing stage database trace world with
  | zero =>
    obtain ⟨answer, rfl⟩ := Stage.ended_of_left (Nat.le_zero.mp enough)
    exact ⟨answer, database, trace, rfl, start⟩
  | succ count ih =>
    obtain ⟨judged, between, step, answers⟩ :=
      advance_succ judge faults request count stage database trace world
    have moves := moves_step request (stage.call?.bind faults) judged database stage
    rw [step]
    exact ih (trace.add stage) (follow start answers)
      (moves.left_le.trans (Nat.sub_le_of_le_add enough)) between

/-- What holds of a submission that comes, and is carried on by every step, holds of its answer. -/
theorem submit_induction {motive : Stage → Database → List Act → Prop}
    (start : motive .findUser before [])
    (follow : ∀ {stage database acts judged}, motive stage database acts →
      (∀ job, stage.job? = some job → Answers judge job judged) →
      motive (stage.step request (stage.call?.bind faults) judged database).1
        (stage.step request (stage.call?.bind faults) judged database).2 (acts ++ stage.act?.toList))
    (world : W) :
    ∃ answer after trace,
      ((submit judge faults request before).run world).1 = (answer, after, trace) ∧
      motive (.ended answer) after trace.acts := by
  obtain ⟨answer, after, trace, ran, ended⟩ :=
    advance_induction follow {} start (Nat.le_refl stages) world
  refine ⟨answer, after, trace, ?_, ended⟩
  simp only [submit, run_bind, run_pure, ran, Stage.answer?, Option.getD_some]

/-- **Every submission comes to its end by the rules.** -/
theorem reached_of_submit (judge : Job → StateM W (Except Fault JobResult)) (faults : Faults)
    (request : Request) (before : Database) (world : W) :
    ∃ answer after trace,
      ((submit judge faults request before).run world).1 = (answer, after, trace) ∧
      Reached judge faults request before (.ended answer) after trace.acts :=
  submit_induction .come (fun reached answers => reached.step (moves_step ..) answers) world

end CodeJudge.Coordinator
