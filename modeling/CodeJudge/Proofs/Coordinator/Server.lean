import CodeJudge.Coordinator.Server
import CodeJudge.Proofs.Coordinator.Effect
import CodeJudge.Proofs.Coordinator.Job
import CodeJudge.Proofs.Http.Body

/-!
# What the server answers to a submission

A submission can fail at each of its calls and at the dispatch, with a fault that has come through any
number of contexts. The server tells the submitter what was wrong with the submission, and of a failure
only whether the database is to blame, which it finds out by going down the chain of causes.

- `Blocked` says what comes in the way of an act: a fault, a closed database, a judge that fails, or a job
  that cannot be made. A submission does not get past an act that is blocked, and fails with what has
  blocked it (`Progress`, carried along a submission by `Progress.step`).
- `Reply` is what the answer has to be, case by case.

**The law** (`posting_answered`): whatever the request, the store, the judge and the faults, a body that the
server cannot read as a submission is refused before anything is done; every submission that it reads gets the
answer of its case; and of two failures that are both the database's, or both not, the answers have the same
body.

**What it does not establish.** Anything of bodies that break off on their way.
-/

namespace CodeJudge

/-! ## Who is to blame -/

namespace Fault

/-- A fault and all that lies below it, the outermost first. -/
def chain : Fault → List Fault
  | during doing fault => during doing fault :: fault.chain
  | fault => [fault]

/-- A fault of the database lies in the chain. -/
def OfDatabase (fault : Fault) : Prop := ∃ below, database below ∈ fault.chain

/-- A context does not hide the database. -/
@[simp] theorem ofDatabase_during (doing : String) (fault : Fault) :
    (during doing fault).OfDatabase ↔ fault.OfDatabase := by
  simp only [OfDatabase, chain, List.mem_cons, reduceCtorEq, false_or]

/-- The database is found to blame exactly where a fault of it lies in the chain. -/
theorem database?_isSome_iff (fault : Fault) : fault.database?.isSome = true ↔ fault.OfDatabase := by
  induction fault with
  | during doing fault ih => rw [ofDatabase_during, database?, ih]
  | database fault => exact iff_of_true rfl ⟨fault, List.mem_singleton_self _⟩
  | _ => exact iff_of_false Bool.false_ne_true fun ⟨_, mem⟩ => nomatch List.mem_singleton.mp mem

end Fault

namespace Coordinator

open Http (Response ApiError BodyError)
open Store (Id Database Tables Limits)

variable {W : Type}

/-! ## What an answer tells -/

/-- An answer has a status, and a code in its body. -/
def Tells (response : Response) (status : Nat) (code : Int) : Prop :=
  response.status = status ∧
    ∃ members, response.body = some (.object members) ∧ ("code", .int code) ∈ members

/-- An answer says something in its body. -/
def Says (response : Response) (message : String) : Prop :=
  ∃ members, response.body = some (.object members) ∧ ("message", .string message) ∈ members

/-- An error is told with its status and its code. -/
theorem tells_response_iff {error : ApiError} {status : Nat} {code : Int} :
    Tells error.response status code ↔ error.status = status ∧ error.code = code := by
  refine and_congr_right fun _ => ⟨?_, ?_⟩
  · rintro ⟨members, body, mem⟩
    cases body
    cases error <;> simpa [ApiError.code, eq_comm] using mem
  · rintro rfl
    exact ⟨_, rfl, List.mem_append_left _ (List.mem_cons_of_mem _ (List.mem_singleton_self _))⟩

/-- A body that is not read is an argument that is not valid. -/
theorem tells_unread (error : BodyError) : Tells error.toApi.response 400 1 :=
  tells_response_iff.mpr ⟨rfl, rfl⟩

/-- Why a body is not read is said. -/
theorem says_unread (error : BodyError) : Says error.toApi.response error.message :=
  ⟨_, rfl, List.mem_append_right _ (List.mem_singleton_self _)⟩

variable {answer : Except SubmitError Outcome}

/-- Another status than that of success is told of an error. -/
theorem tells_responseOf_iff {status : Nat} {code : Int} (bad : status ≠ 200) :
    Tells (responseOf answer) status code ↔
      ∃ error, answer = .error error ∧ error.toApi.status = status ∧ error.toApi.code = code := by
  cases answer with
  | ok outcome =>
    refine iff_of_false (fun told => bad told.1.symm) ?_
    rintro ⟨_, ⟨⟩, _⟩
  | error error =>
    refine tells_response_iff.trans ⟨fun told => ⟨error, rfl, told⟩, ?_⟩
    rintro ⟨_, ⟨⟩, told⟩
    exact told

/-- A failure has the code of the database where the database is to blame, and another one elsewhere. -/
theorem code_toApi_system (fault : Fault) :
    ((SubmitError.system fault).toApi.code = 5 ↔ fault.OfDatabase) ∧
      ((SubmitError.system fault).toApi.code = 6 ↔ ¬ fault.OfDatabase) := by
  rw [← fault.database?_isSome_iff, SubmitError.toApi]
  cases fault.database?.isSome <;> decide

/-- A failure has the status of a server that has failed. -/
theorem status_toApi_system (fault : Fault) : (SubmitError.system fault).toApi.status = 500 := by
  rw [SubmitError.toApi]
  cases fault.database?.isSome <;> rfl

/-- Of a failure, the server tells that it has failed. -/
theorem tells_failure_iff {code : Int} :
    Tells (responseOf answer) 500 code ↔
      ∃ fault, answer = .error (.system fault) ∧ (SubmitError.system fault).toApi.code = code := by
  rw [tells_responseOf_iff (by decide)]
  constructor
  · rintro ⟨error, rfl, status, code⟩
    cases error with
    | system fault => exact ⟨fault, rfl, code⟩
    | _ => cases status
  · rintro ⟨fault, rfl, code⟩
    exact ⟨_, rfl, status_toApi_system fault, code⟩

/-- A user or a problem that is not there is told as not found. -/
theorem tells_notFound_iff :
    Tells (responseOf answer) 404 3 ↔
      (∃ user, answer = .error (.userNotFound user)) ∨
        ∃ problem, answer = .error (.problemNotFound problem) := by
  rw [tells_responseOf_iff (by decide)]
  constructor
  · rintro ⟨error, rfl, status, -⟩
    cases error with
    | userNotFound user => exact .inl ⟨user, rfl⟩
    | problemNotFound problem => exact .inr ⟨problem, rfl⟩
    | unsupportedLanguage name => cases status
    | system fault =>
      rw [status_toApi_system] at status
      cases status
  · rintro (⟨_, rfl⟩ | ⟨_, rfl⟩) <;> exact ⟨_, rfl, rfl, rfl⟩

/-- A language that is not supported is told as an argument that is not valid. -/
theorem tells_invalid_iff :
    Tells (responseOf answer) 400 1 ↔ ∃ name, answer = .error (.unsupportedLanguage name) := by
  rw [tells_responseOf_iff (by decide)]
  constructor
  · rintro ⟨error, rfl, status, -⟩
    cases error with
    | unsupportedLanguage name => exact ⟨name, rfl⟩
    | system fault =>
      rw [status_toApi_system] at status
      cases status
    | _ => cases status
  · rintro ⟨_, rfl⟩
    exact ⟨_, rfl, rfl, rfl⟩

/-- Success is told of an outcome, which is the body. -/
theorem success_iff :
    (responseOf answer).status = 200 ↔
      ∃ outcome, answer = .ok outcome ∧ (responseOf answer).body = some outcome.toJson := by
  cases answer with
  | ok outcome => exact iff_of_true rfl ⟨outcome, rfl, rfl⟩
  | error error =>
    refine iff_of_false (fun success => ?_) (fun ⟨_, told, _⟩ => nomatch told)
    cases error with
    | system fault => cases (status_toApi_system fault).symm.trans success
    | _ => cases success

/-- There is no other answer than these. -/
theorem tells_or_succeeds (answer : Except SubmitError Outcome) :
    Tells (responseOf answer) 404 3 ∨ Tells (responseOf answer) 400 1 ∨ Tells (responseOf answer) 500 5 ∨
      Tells (responseOf answer) 500 6 ∨ (responseOf answer).status = 200 := by
  cases answer with
  | ok outcome => exact .inr (.inr (.inr (.inr rfl)))
  | error error =>
    cases error with
    | userNotFound user => exact .inl (tells_notFound_iff.mpr (.inl ⟨user, rfl⟩))
    | problemNotFound problem => exact .inl (tells_notFound_iff.mpr (.inr ⟨problem, rfl⟩))
    | unsupportedLanguage name => exact .inr (.inl (tells_invalid_iff.mpr ⟨name, rfl⟩))
    | system fault =>
      obtain ⟨external, internal⟩ := code_toApi_system fault
      by_cases database : fault.OfDatabase
      · exact .inr (.inr (.inl (tells_failure_iff.mpr ⟨fault, rfl, external.mpr database⟩)))
      · exact .inr (.inr (.inr (.inl (tells_failure_iff.mpr ⟨fault, rfl, internal.mpr database⟩))))

/-! ## What comes in the way of an act -/

section

variable (judge : Job → StateM W (Except Fault JobResult)) (faults : Faults) (request : Request)
variable (before : Database)

/-- **What comes in the way of an act of a submission**: a fault; or else the database that has been closed,
the judge that fails whatever the world, or the number that does not fit into a job. -/
inductive Blocked : Act → Fault → Prop
  | stopped {call : Call} {fault : Fault} (why : faults call = some fault) : Blocked (.call call) fault
  | closed {call : Call} (made : faults call = none) (closed : before.isOpen = false) :
      Blocked (.call call) (.database .closed)
  | undelivered {job : Job} {fault : Fault} (why : ∀ world, ((judge job).run world).1 = .error fault) :
      Blocked (.dispatch job) fault
  | unfit {limits : Limits} (made : faults .limits = none) (opened : before.isOpen = true)
      (limited : before.tables.limits request.problem = .ok limits)
      (large : 2147483647 < (before.tables.casesOf request.problem).length ∨
        2147483647 < limits.time ∨ 2147483647 < limits.memory) :
      Blocked (.call .limits) .tooLarge

/-- **How far a submission gets**: past all acts that it has asked for, or up to one that was blocked, which is
its last and with which it has failed. -/
inductive Progress : Stage → List Act → Prop
  | clear {stage : Stage} {acts : List Act}
      (clear : ∀ act ∈ acts, ∀ fault, ¬ Blocked judge faults request before act fault) :
      Progress stage acts
  | stopped {acts : List Act} {act : Act} {fault : Fault}
      (clear : ∀ act ∈ acts, ∀ fault, ¬ Blocked judge faults request before act fault)
      (blocked : Blocked judge faults request before act fault) :
      Progress (.fail fault) (acts ++ [act])

/-- The checks of a submission can be made. -/
structure Checked : Prop where
  opened : before.isOpen = true
  user : faults .userExists = none
  problem : before.tables.userExists request.user = true → faults .problemExists = none

end

variable {judge : Job → StateM W (Except Fault JobResult)} {faults : Faults} {request : Request}
variable {before database after : Database} {stage : Stage} {acts : List Act} {act : Act}
variable {judged : Except Fault JobResult} {fault : Fault}

/-- The database refuses every call once it is closed. -/
theorem afterCall_closed {call : Call} (asks : stage.call? = some call)
    (closed : database.isOpen = false) :
    stage.afterCall request database = .error (.database .closed) := by
  cases stage with
  | dispatch | wait | ended => cases asks
  | _ =>
    simp only [Stage.afterCall, Stage.afterRead, Database.query, Database.change, closed,
      Bool.false_eq_true, ↓reduceIte]
    rfl

/-- A call is asked for by a stage that calls the store. -/
theorem call?_of_act? {call : Call} (asks : stage.act? = some (.call call)) :
    stage.call? = some call := by
  cases stage with
  | dispatch => cases asks
  | _ => simpa only [Stage.act?, Option.map_eq_some_iff, Act.call.injEq, exists_eq_right] using asks

/-- A job that does not fit is not made. -/
theorem Reached.afterCall_unfit {limits : Limits}
    (reached : Reached judge faults request before stage database acts)
    (asks : stage.call? = some .limits) (opened : before.isOpen = true)
    (limited : before.tables.limits request.problem = .ok limits)
    (large : 2147483647 < (before.tables.casesOf request.problem).length ∨
      2147483647 < limits.time ∨ 2147483647 < limits.memory) :
    stage.afterCall request database = .error .tooLarge := by
  cases reached with
  | @read language admitted =>
    -- keeping the submission has changed neither the problems nor their cases
    have kept : (request.saved before.tables language).limits request.problem = .ok limits := limited
    simp only [Stage.afterCall, Stage.afterRead, Database.query, opened, ↓reduceIte, kept]
    simp only [bind, Except.bind, jobOf_of_large large]
  | _ => cases asks

/-- **What blocks an act is what the submission fails with.** -/
theorem Reached.step_blocked (reached : Reached judge faults request before stage database acts)
    (asks : stage.act? = some act) (blocked : Blocked judge faults request before act fault)
    (answers : ∀ job, stage.job? = some job → Answers judge job judged) :
    (stage.step request (stage.call?.bind faults) judged database).1 = .fail fault := by
  have same : database.isOpen = before.isOpen := (reached.leaves_of_act asks).2
  cases blocked with
  | stopped why =>
    have calls := call?_of_act? asks
    rw [step_of_call calls, calls, Option.bind_some, why]
  | closed made closed =>
    have calls := call?_of_act? asks
    rw [step_of_call calls, calls, Option.bind_some, made, afterCall_closed calls (same.trans closed)]
  | undelivered why =>
    cases stage with
    | dispatch submission job =>
      cases asks
      obtain ⟨world, answered⟩ := answers _ rfl
      rw [← answered, why world]
      rfl
    | _ => cases asks
  | unfit made opened limited large =>
    have calls := call?_of_act? asks
    rw [step_of_call calls, calls, Option.bind_some, made,
      reached.afterCall_unfit calls opened limited large]

/-- A step does not get past an act that is blocked. -/
theorem Progress.step (progress : Progress judge faults request before stage acts)
    (reached : Reached judge faults request before stage database acts)
    (answers : ∀ job, stage.job? = some job → Answers judge job judged) :
    Progress judge faults request before
      (stage.step request (stage.call?.bind faults) judged database).1 (acts ++ stage.act?.toList) := by
  cases asks : stage.act? with
  | none =>
    rw [Option.toList_none, List.append_nil]
    cases progress with
    | clear clear => exact .clear clear
    | stopped clear blocked => exact .stopped clear blocked
  | some act =>
    cases progress with
    | stopped => cases asks
    | clear clear =>
      by_cases blocked : ∃ fault, Blocked judge faults request before act fault
      · obtain ⟨fault, blocked⟩ := blocked
        rw [reached.step_blocked asks blocked answers]
        exact .stopped clear blocked
      · refine .clear fun other mem fault stops => ?_
        rcases List.mem_append.mp mem with mem | mem
        · exact clear other mem fault stops
        · cases List.mem_singleton.mp mem
          exact blocked ⟨fault, stops⟩

/-- An act is blocked by one thing at most. -/
theorem Blocked.unique {other : Fault} (blocked : Blocked judge faults request before act fault)
    (others : Blocked judge faults request before act other) (world : W) : fault = other := by
  cases blocked with
  | stopped why =>
    cases others with
    | stopped why_ => exact Option.some.inj (why.symm.trans why_)
    | closed made => cases why.symm.trans made
    | unfit made => cases why.symm.trans made
  | closed made closed =>
    cases others with
    | stopped why => cases made.symm.trans why
    | closed => rfl
    | unfit _ opened => cases closed.symm.trans opened
  | undelivered why =>
    cases others with
    | undelivered why_ => exact Except.error.inj ((why world).symm.trans (why_ world))
  | unfit made opened =>
    cases others with
    | stopped why => cases made.symm.trans why
    | closed _ closed => cases closed.symm.trans opened
    | unfit => rfl

/-- A submission that has asked for what is blocked has failed with it. -/
theorem Progress.failed (progress : Progress judge faults request before (.ended answer) acts)
    (world : W) (mem : act ∈ acts) (blocked : Blocked judge faults request before act fault) :
    answer = .error (.system fault) := by
  cases progress with
  | clear clear => exact absurd blocked (clear act mem fault)
  | stopped clear stops =>
    rcases List.mem_append.mp mem with mem | mem
    · exact absurd blocked (clear act mem fault)
    · cases List.mem_singleton.mp mem
      rw [stops.unique blocked world]

/-- A submission that is refused has been checked. -/
theorem Reached.checked {error : SubmitError}
    (reached : Reached judge faults request before (.ended (.error error)) after acts)
    (refusing : ∀ fault, error ≠ .system fault)
    (free : ∀ act ∈ acts, ∀ fault, ¬ Blocked judge faults request before act fault) :
    Checked faults request before := by
  have asked : .call .userExists ∈ acts ∧
      (before.tables.userExists request.user = true → .call .problemExists ∈ acts) := by
    cases reached with
    | noUser unknown => exact ⟨by decide, fun known => nomatch unknown.symm.trans known⟩
    | noProblem => exact ⟨by decide, fun _ => by decide⟩
    | noLanguage => exact ⟨by decide, fun _ => by decide⟩
    | failed => exact absurd rfl (refusing _)
  have made {call : Call} (mem : .call call ∈ acts) : faults call = none :=
    Option.eq_none_iff_forall_ne_some.mpr fun _ why => free _ mem _ (.stopped why)
  refine ⟨?_, made asked.1, fun known => made (asked.2 known)⟩
  by_contra closed
  exact free _ asked.1 _ (.closed (made asked.1) (Bool.eq_false_iff.mpr closed))

/-! ## The answer to a submission -/

section

variable (judge : Job → StateM W (Except Fault JobResult)) (faults : Faults) (request : Request)
variable (before : Database) (answer : Except SubmitError Outcome) (trace : Trace) (response : Response)

/-- **What a submission has to be answered**, case by case. -/
structure Reply : Prop where
  notFound : Tells response 404 3 ↔ Checked faults request before ∧
    (before.tables.userExists request.user = false ∨ before.tables.problemExists request.problem = false)
  unsupported : Tells response 400 1 ↔ Checked faults request before ∧
    before.tables.userExists request.user = true ∧ before.tables.problemExists request.problem = true ∧
    Language.parse? request.submission.language = none
  external : Tells response 500 5 ↔ ∃ fault, answer = .error (.system fault) ∧ fault.OfDatabase
  internal : Tells response 500 6 ↔ ∃ fault, answer = .error (.system fault) ∧ ¬ fault.OfDatabase
  success : response.status = 200 ↔
    ∃ outcome, answer = .ok outcome ∧ response.body = some outcome.toJson
  /-- There is no other answer. -/
  exhaustive : Tells response 404 3 ∨ Tells response 400 1 ∨ Tells response 500 5 ∨
    Tells response 500 6 ∨ response.status = 200
  /-- What blocks an act that is asked for is what the submission fails with. -/
  blocked : ∀ act ∈ trace.acts, ∀ fault, Blocked judge faults request before act fault →
    answer = .error (.system fault)
  /-- Where the store is open and sound, nothing else makes a submission fail. -/
  cause : ∀ fault, answer = .error (.system fault) → before.isOpen = true → before.tables.Keyed →
    ∃ act, trace.acts.getLast? = some act ∧ Cause judge faults request before.tables act fault

end

/-- A refusal is the answer exactly where the checks are made and ask for it. -/
theorem Effect.eq_refusal_iff {trace : Trace} {error : SubmitError}
    (effect : Effect judge faults request before answer after trace)
    (reached : Reached judge faults request before (.ended answer) after trace.acts)
    (blocked : ∀ act ∈ trace.acts, ∀ fault, Blocked judge faults request before act fault →
      answer = .error (.system fault))
    (refusing : ∀ fault, error ≠ .system fault) :
    answer = .error error ↔
      Checked faults request before ∧ refusal? request before.tables = some error := by
  constructor
  · rintro rfl
    refine ⟨reached.checked refusing fun act mem fault stops => ?_, ?_⟩
    · exact refusing fault (Except.error.inj (blocked act mem fault stops))
    · rcases effect.refusal error rfl with ⟨fault, same⟩ | ⟨refused, -, -⟩
      · exact absurd same (refusing fault)
      · exact refused
  · rintro ⟨checked, refused⟩
    exact (effect.refused error refused checked.opened checked.user checked.problem).1

/-- Something is not found where the user or the problem is not there. -/
theorem refusal?_notFound_iff {tables : Tables} :
    ((∃ user, refusal? request tables = some (.userNotFound user)) ∨
        ∃ problem, refusal? request tables = some (.problemNotFound problem)) ↔
      tables.userExists request.user = false ∨ tables.problemExists request.problem = false := by
  unfold refusal?
  cases tables.userExists request.user <;> cases tables.problemExists request.problem <;>
    cases Language.parse? request.submission.language <;> simp

/-- A language is refused where the user and the problem are there, and the language is not supported. -/
theorem refusal?_unsupported_iff {tables : Tables} :
    (∃ name, refusal? request tables = some (.unsupportedLanguage name)) ↔
      tables.userExists request.user = true ∧ tables.problemExists request.problem = true ∧
        Language.parse? request.submission.language = none := by
  unfold refusal?
  cases tables.userExists request.user <;> cases tables.problemExists request.problem <;>
    cases Language.parse? request.submission.language <;> simp

/-- What a submission answers is told as it has to be. -/
theorem reply_of_submit (judge : Job → StateM W (Except Fault JobResult)) (faults : Faults)
    (request : Request) (before : Database) (world : W) :
    ∃ answer after trace,
      ((submit judge faults request before).run world).1 = (answer, after, trace) ∧
      Reply judge faults request before answer trace (responseOf answer) := by
  obtain ⟨answer, after, trace, ran, reached, progress⟩ :=
    submit_induction (motive := fun stage database acts =>
      Reached judge faults request before stage database acts ∧
        Progress judge faults request before stage acts)
      ⟨.come, .clear nofun⟩
      (fun ⟨reached, progress⟩ answers =>
        ⟨reached.step (moves_step ..) answers, progress.step reached answers⟩) world
  have effect : Effect judge faults request before answer after trace := reached.effect
  have blocked : ∀ act ∈ trace.acts, ∀ fault, Blocked judge faults request before act fault →
      answer = .error (.system fault) := fun act mem fault => progress.failed world mem
  have noUser (user : Id) := effect.eq_refusal_iff reached blocked
    (show ∀ fault, SubmitError.userNotFound user ≠ .system fault from nofun)
  have noProblem (problem : Id) := effect.eq_refusal_iff reached blocked
    (show ∀ fault, SubmitError.problemNotFound problem ≠ .system fault from nofun)
  have noLanguage (name : String) := effect.eq_refusal_iff reached blocked
    (show ∀ fault, SubmitError.unsupportedLanguage name ≠ .system fault from nofun)
  refine ⟨answer, after, trace, ran, ?_, ?_, ?_, ?_, success_iff, tells_or_succeeds answer, blocked,
    effect.cause⟩
  · simp only [tells_notFound_iff, noUser, noProblem, exists_and_left, ← and_or_left,
      refusal?_notFound_iff]
  · simp only [tells_invalid_iff, noLanguage, exists_and_left, refusal?_unsupported_iff]
  · simp only [tells_failure_iff, code_toApi_system]
  · simp only [tells_failure_iff, code_toApi_system]

/-! ## The server -/

/-- **A submission that comes to the server**, with all that its answer can depend on. -/
structure Posting (W : Type) where
  judge : Job → StateM W (Except Fault JobResult)
  faults : Faults
  time : String
  before : Database
  request : Http.Request
  world : W
  post : request.method = .post
  submissions : Http.partsOf request.target = some ["submissions"]

namespace Posting

/-- What the body of the request is read as, or why it is not read. -/
def read (posting : Posting W) : Except BodyError Submission :=
  posting.request.decode Http.bodyLimit Submission.decode

/-- What the server does: its answer, the store that it leaves, what it has done, and the world then. -/
def served (posting : Posting W) : (Response × Database × Trace) × W :=
  (serve posting.judge posting.faults posting.time posting.before posting.request).run posting.world

/-- What becomes of a submission that the body is read as. -/
def submitted (posting : Posting W) (submission : Submission) :
    Except SubmitError Outcome × Database × Trace :=
  ((submit posting.judge posting.faults { submission, time := posting.time } posting.before).run
    posting.world).1

/-- The submission that is read fails with a fault. -/
def FailsWith (posting : Posting W) (fault : Fault) : Prop :=
  ∃ submission, posting.read = .ok submission ∧
    (posting.submitted submission).1 = .error (.system fault)

variable {posting : Posting W}

/-- Nothing is done for a body that is not read. -/
theorem served_of_error {error : BodyError} (unread : posting.read = .error error) :
    posting.served = ((error.toApi.response, posting.before, {}), posting.world) := by
  rw [read] at unread
  simp only [served, serve, posting.post, posting.submissions, and_self, ↓reduceIte, unread, run_pure]

/-- A submission that is read is submitted, and answered as it answers. -/
theorem served_of_ok {submission : Submission} (reads : posting.read = .ok submission) :
    posting.served.1 = (responseOf (posting.submitted submission).1,
      (posting.submitted submission).2.1, (posting.submitted submission).2.2) := by
  rw [read] at reads
  simp only [served, serve, posting.post, posting.submissions, and_self, ↓reduceIte, reads, run_bind, run_pure]
  rfl

end Posting

/-- Of a failure, the answer depends on nothing but whether the database is to blame. -/
theorem responseOf_eq_of_blame {fault other : Fault} (same : fault.OfDatabase ↔ other.OfDatabase) :
    responseOf (.error (.system fault)) = responseOf (.error (.system other)) := by
  have found : fault.database?.isSome = other.database?.isSome := by
    rw [Bool.eq_iff_iff, fault.database?_isSome_iff, other.database?_isSome_iff, same]
  simp only [responseOf, SubmitError.toApi, found]

/-- **What the server answers to a submission**, whatever the body, the store, the judge and the faults are.
A body is read exactly if it is declared to be JSON, is no longer than the limit and decodes as a submission.
One that is not read is told to be no valid argument, and why; nothing is asked of the store or of the judge,
and nothing changes. A submission that is read is submitted, and its answer is told as `Reply` says: not found
exactly for a user or a problem that is not there, invalid exactly for a language that is not supported,
external exactly for a failure with a fault of the database in its chain, internal for every other failure,
and otherwise the outcome. Two failures with the database to blame for both, or for neither, have the same
answer, whatever else is different about them. -/
theorem posting_answered (posting : Posting W) :
    (∀ submission, posting.read = .ok submission ↔
      posting.request.isJson = true ∧ posting.request.body.length ≤ Http.bodyLimit ∧
        Json.decodeBytes Submission.decode posting.request.body = .ok submission) ∧
    (∀ error, posting.read = .error error → ∃ response,
      posting.served = ((response, posting.before, {}), posting.world) ∧ Tells response 400 1 ∧
        Says response error.message) ∧
    (∀ submission, posting.read = .ok submission → ∃ answer after trace response,
      posting.submitted submission = (answer, after, trace) ∧
      posting.served.1 = (response, after, trace) ∧
      Reply posting.judge posting.faults ⟨submission, posting.time⟩ posting.before answer trace
        response) ∧
    ∀ {V : Type} (other : Posting V) (fault cause : Fault), posting.FailsWith fault →
      other.FailsWith cause → (fault.OfDatabase ↔ cause.OfDatabase) →
      posting.served.1.1 = other.served.1.1 := by
  refine ⟨fun submission => Http.Request.decode_eq_ok_iff, fun error unread => ?_,
    fun submission reads => ?_, ?_⟩
  · exact ⟨error.toApi.response, Posting.served_of_error unread, tells_unread error, says_unread error⟩
  · obtain ⟨answer, after, trace, ran, reply⟩ :=
      reply_of_submit posting.judge posting.faults ⟨submission, posting.time⟩ posting.before posting.world
    have submitted : posting.submitted submission = (answer, after, trace) := ran
    refine ⟨answer, after, trace, responseOf answer, submitted, ?_, reply⟩
    rw [Posting.served_of_ok reads, submitted]
  · rintro V other fault cause ⟨submission, reads, failed⟩ ⟨submission_, reads_, failed_⟩ same
    rw [Posting.served_of_ok reads, Posting.served_of_ok reads_]
    show responseOf (posting.submitted submission).1 = responseOf (other.submitted submission_).1
    rw [failed, failed_, responseOf_eq_of_blame same]

/-- A submission in Go, of which the limits of its problem cannot be read: the database has no connection to
give, and two callers have said what they were doing. -/
def lostPosting : Posting Unit where
  judge _ := pure (.error (.other "never asked"))
  faults
    | .limits => some (.during "judging" (.during "reading limits" (.database .closed)))
    | _ => none
  time := "2024-01-02T03:04:05.678Z"
  before := { tables := { users := [⟨1, "a", 0⟩], problems := [⟨7, "b", 1000, 65536⟩] } }
  request := .ofJson .post "/submissions" (Submission.toJson ⟨1, 7, "Go", "package main"⟩)
  world := ()
  post := rfl
  submissions := by decide

example : lostPosting.served.1.1.received = ApiError.external.response.received := by decide +kernel

end Coordinator

end CodeJudge
