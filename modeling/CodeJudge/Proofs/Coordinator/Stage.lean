import CodeJudge.Coordinator.Stage
import CodeJudge.Proofs.Actions

/-!
# The rules of a submission

What one step of a submission can do, said once: a rule of `Moves` for every call that comes out well,
with what it has found and what it leaves in the database, and one rule for all that do not. Whatever
holds along the stages of a submission is shown rule by rule.
-/

namespace CodeJudge.Store.Database

variable {α : Type} {database after : Database} {answer : α}

/-- What a question to the tables is answered with comes from tables that are open. -/
theorem query_ok {ask : Tables → Except Fault α} (asked : database.query ask = .ok answer) :
    database.isOpen = true ∧ ask database.tables = .ok answer := by
  unfold query at asked
  split at asked
  · rename_i opened
    exact ⟨opened, asked⟩
  · cases asked

/-- What is only looked up is found in the tables. -/
theorem lookup_ok {found : Tables → α}
    (asked : (database.query fun tables => return found tables) = .ok answer) :
    answer = found database.tables :=
  (Except.ok.inj (query_ok asked).2).symm

/-- A change that is made is made to tables that are open. -/
theorem change_ok {act : Tables → Except Fault (α × Tables)}
    (changed : database.change act = .ok (answer, after)) :
    database.isOpen = true ∧ ∃ tables, act database.tables = .ok (answer, tables) ∧
      after = { database with tables } := by
  unfold change at changed
  split at changed
  · rename_i opened
    cases acted : act database.tables with
    | error fault =>
      rw [acted] at changed
      cases changed
    | ok done =>
      rw [acted] at changed
      cases changed
      exact ⟨opened, done.2, rfl, rfl⟩
  · cases changed

end CodeJudge.Store.Database

namespace CodeJudge.Coordinator

open Store (Id Database Tables NewSubmission NewJudgement CaseRow Limits)

/-- The submission that a request becomes in the store. -/
def Request.kept (request : Request) (language : Language) : NewSubmission where
  user := request.user
  problem := request.problem
  language
  source := request.submission.source
  submitted := request.time

section

variable (request : Request) (fault : Option Fault) (judged : Except Fault JobResult)
variable (database : Database)

/-- **What a step of a submission does**: from which stage to which, and what becomes of the
database. -/
inductive Moves : Stage → Stage → Database → Prop
  /-- A call fails, because it is not made or because the store refuses it. -/
  | failed {stage : Stage} {call : Call} {cause : Fault} (calls : stage.call? = some call)
      (why : fault = some cause ∨ fault = none ∧ stage.afterCall request database = .error cause) :
      Moves stage (.fail cause) database
  | foundUser (made : fault = none) (known : database.tables.userExists request.user = true) :
      Moves .findUser .findProblem database
  | noUser (made : fault = none) (unknown : database.tables.userExists request.user = false) :
      Moves .findUser (.ended (.error (.userNotFound request.user))) database
  | foundProblem {language : Language} (made : fault = none)
      (known : database.tables.problemExists request.problem = true)
      (parsed : Language.parse? request.submission.language = some language) :
      Moves .findProblem (.keep language) database
  | noLanguage (made : fault = none)
      (known : database.tables.problemExists request.problem = true)
      (strange : Language.parse? request.submission.language = none) :
      Moves .findProblem (.ended (.error (.unsupportedLanguage request.submission.language)))
        database
  | noProblem (made : fault = none)
      (unknown : database.tables.problemExists request.problem = false) :
      Moves .findProblem (.ended (.error (.problemNotFound request.problem))) database
  | kept {language : Language} {id : Id} {tables : Tables} (made : fault = none)
      (saved : database.tables.saveSubmission (request.kept language) = .ok (id, tables)) :
      Moves (.keep language) (.readCases language id) { database with tables }
  | readCases {language : Language} {submission : Id} (made : fault = none) :
      Moves (.readCases language submission)
        (.readLimits language submission (database.tables.casesOf request.problem)) database
  | readLimits {language : Language} {submission : Id} {cases : List CaseRow} {limits : Limits}
      {job : Job} (made : fault = none)
      (limited : database.tables.limits request.problem = .ok limits)
      (fits : jobOf request language cases limits = .ok job) :
      Moves (.readLimits language submission cases) (.dispatch submission job) database
  | undelivered {submission : Id} {job : Job} {cause : Fault} (came : judged = .error cause) :
      Moves (.dispatch submission job) (.fail cause) database
  | delivered {submission : Id} {job : Job} {result : JobResult} (came : judged = .ok result) :
      Moves (.dispatch submission job) (.wait (judgementOf request submission result) result) database
  | locked {judgement : NewJudgement} {result : JobResult} :
      Moves (.wait judgement result) (.findPrior judgement result) database
  | foundPrior {judgement : NewJudgement} {result : JobResult} (made : fault = none) :
      Moves (.findPrior judgement result)
        (.record judgement result
          (database.tables.priorAccepted judgement.user judgement.problem)) database
  /-- The judgement is the first that accepts, as far as has been seen. -/
  | first {judgement : NewJudgement} {result : JobResult} {id : Id} {tables : Tables}
      (made : fault = none) (saved : database.tables.saveJudgement judgement = .ok (id, tables))
      (accepted : judgement.verdict = .accepted) :
      Moves (.record judgement result false) (.count judgement result id) { database with tables }
  | recorded {judgement : NewJudgement} {result : JobResult} {solved : Bool} {id : Id}
      {tables : Tables} (made : fault = none)
      (saved : database.tables.saveJudgement judgement = .ok (id, tables))
      (later : judgement.verdict = .accepted → solved = true) :
      Moves (.record judgement result solved) (.ended (.ok (outcomeOf judgement result id)))
        { database with tables }
  | counted {judgement : NewJudgement} {result : JobResult} {id : Id} (made : fault = none) :
      Moves (.count judgement result id) (.ended (.ok (outcomeOf judgement result id)))
        { database with tables := database.tables.incrementSolved judgement.user }
  | still {answer : Except SubmitError Outcome} : Moves (.ended answer) (.ended answer) database

end

variable {request : Request} {judged : Except Fault JobResult} {database after : Database}
variable {stage next : Stage}

/-- A call that only reads leaves the database as it is. -/
theorem afterRead_of_bind {reading : Except Fault Stage}
    (done : (do return (← reading, database)) = Except.ok (next, after)) :
    reading = .ok next ∧ database = after := by
  obtain ⟨found, read, same⟩ := exists_of_bind_ok done
  cases same
  exact ⟨read, rfl⟩

/-- A call that comes out well follows one of the rules. -/
theorem moves_of_afterCall (calls : stage.call?.isSome)
    (done : stage.afterCall request database = .ok (next, after)) :
    Moves request none judged database stage next after := by
  cases stage with
  | findUser =>
    obtain ⟨read, rfl⟩ := afterRead_of_bind done
    obtain ⟨found, looked, same⟩ := exists_of_bind_ok read
    cases same
    obtain rfl := Database.lookup_ok looked
    cases known : database.tables.userExists request.user with
    | true => exact .foundUser rfl known
    | false => exact .noUser rfl known
  | findProblem =>
    obtain ⟨read, rfl⟩ := afterRead_of_bind done
    obtain ⟨found, looked, same⟩ := exists_of_bind_ok read
    cases same
    obtain rfl := Database.lookup_ok looked
    cases known : database.tables.problemExists request.problem with
    | true =>
      cases parsed : Language.parse? request.submission.language with
      | some language => exact .foundProblem rfl known parsed
      | none => exact .noLanguage rfl known parsed
    | false => exact .noProblem rfl known
  | keep language =>
    obtain ⟨⟨id, database⟩, changed, same⟩ := exists_of_bind_ok done
    cases same
    obtain ⟨-, tables, saved, rfl⟩ := Database.change_ok changed
    exact .kept rfl saved
  | readCases language submission =>
    obtain ⟨read, rfl⟩ := afterRead_of_bind done
    obtain ⟨cases, looked, same⟩ := exists_of_bind_ok read
    cases same
    obtain rfl := Database.lookup_ok looked
    exact .readCases rfl
  | readLimits language submission cases =>
    obtain ⟨read, rfl⟩ := afterRead_of_bind done
    obtain ⟨limits, looked, made⟩ := exists_of_bind_ok read
    obtain ⟨job, fits, same⟩ := exists_of_bind_ok made
    cases same
    exact .readLimits rfl (Database.query_ok looked).2 fits
  | dispatch submission job => cases calls
  | wait judgement result => cases calls
  | findPrior judgement result =>
    obtain ⟨read, rfl⟩ := afterRead_of_bind done
    obtain ⟨found, looked, same⟩ := exists_of_bind_ok read
    cases same
    obtain rfl := Database.lookup_ok looked
    exact .foundPrior rfl
  | record judgement result solved =>
    obtain ⟨⟨id, database⟩, changed, same⟩ := exists_of_bind_ok done
    obtain ⟨-, tables, saved, rfl⟩ := Database.change_ok changed
    dsimp only at same
    split at same
    · rename_i first
      simp only [Bool.and_eq_true, decide_eq_true_eq, Bool.not_eq_true'] at first
      obtain ⟨accepted, rfl⟩ := first
      cases same
      exact .first rfl saved accepted
    · rename_i later
      simp only [Bool.and_eq_true, decide_eq_true_eq, Bool.not_eq_true', not_and,
        Bool.not_eq_false] at later
      cases same
      exact .recorded rfl saved later
  | count judgement result id =>
    obtain ⟨⟨_, database⟩, changed, same⟩ := exists_of_bind_ok done
    cases same
    obtain ⟨-, tables, counted, rfl⟩ := Database.change_ok changed
    cases counted
    exact .counted rfl
  | ended answer => cases calls

/-- In an open store, the limits of a problem that has them are refused only where they, or the cases, do not
fit into a job. -/
theorem jobOf_of_refused {language : Language} {submission : Id} {cases : List CaseRow} {limits : Limits}
    {cause : Fault}
    (refused : (Stage.readLimits language submission cases).afterCall request database = .error cause)
    (opened : database.isOpen = true) (limited : database.tables.limits request.problem = .ok limits) :
    jobOf request language cases limits = .error cause := by
  simp only [Stage.afterCall, Stage.afterRead, Database.query, opened, ↓reduceIte, limited] at refused
  rcases bind_eq_error.mp refused with read | ⟨_, _, ⟨⟩⟩
  rcases bind_eq_error.mp read with ⟨⟨⟩⟩ | ⟨_, ⟨⟨⟩⟩, made⟩
  rcases bind_eq_error.mp made with unfit | ⟨_, _, ⟨⟩⟩
  exact unfit

/-- A step that is a call comes out as the call does. -/
theorem step_of_call {call : Call} (calls : stage.call? = some call) (fault : Option Fault) :
    stage.step request fault judged database =
      match fault with
      | some cause => (.fail cause, database)
      | none =>
        match stage.afterCall request database with
        | .ok next => next
        | .error cause => (.fail cause, database) := by
  cases stage <;> first | rfl | cases calls

/-- **Every step of a submission follows one of the rules.** -/
theorem moves_step (request : Request) (fault : Option Fault) (judged : Except Fault JobResult)
    (database : Database) (stage : Stage) :
    Moves request fault judged database stage (stage.step request fault judged database).1
      (stage.step request fault judged database).2 := by
  cases calls : stage.call? with
  | some call =>
    rw [step_of_call calls]
    cases fault with
    | some cause => exact .failed calls (.inl rfl)
    | none =>
      cases done : stage.afterCall request database with
      | error cause => exact .failed calls (.inr ⟨rfl, done⟩)
      | ok pair => exact moves_of_afterCall (by rw [calls, Option.isSome_some]) done
  | none =>
    cases stage with
    | dispatch submission job =>
      cases judged with
      | ok result => exact .delivered rfl
      | error cause => exact .undelivered rfl
    | wait judgement result => exact .locked
    | ended answer => exact .still
    | _ => cases calls

end CodeJudge.Coordinator
