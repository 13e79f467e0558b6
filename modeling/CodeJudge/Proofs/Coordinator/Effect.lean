import CodeJudge.Proofs.Coordinator.Submit

/-!
# What one submission does

A submission asks for one thing after another and can fail at each of them, and what it has done by then
stays. This module says what that is: how much of the tables it has changed is told by the acts that have
come out well, and nothing else in the store is touched.

**The law** (`submit_effect`): whatever the store holds, whatever fails and whatever the judge answers,
the acts keep to the agenda, a refusal leaves the store as it was, and a submission with an outcome has
the two rows that the outcome names.

**What it does not establish.** Anything of submissions at the same time; what is said of the rows of the
store is what is said of them when a submission is alone.
-/

namespace CodeJudge.Coordinator

open Store (Id Database Tables)

variable {W : Type}

/-! ## How much is left in the tables -/

/-- How much a submission leaves in the tables. -/
inductive Extent
  | nothing
  /-- One submission. -/
  | saved
  /-- One submission and its judgement. -/
  | judged
  /-- One submission, its judgement, and one more solved problem of the user. -/
  | counted
  deriving DecidableEq, Repr

namespace Extent

/-- How much is left after acts that have come out well. -/
def of (acts : List Act) : Extent :=
  if .call .incrementSolvedCount ∈ acts then counted
  else if .call .saveJudgement ∈ acts then judged
  else if .call .saveSubmission ∈ acts then saved
  else nothing

/-- The submissions that are added. -/
def submissions : Extent → Nat
  | nothing => 0
  | saved | judged | counted => 1

/-- The judgements that are added. -/
def judgements : Extent → Nat
  | nothing | saved => 0
  | judged | counted => 1

/-- What is added to the count of the user. -/
def credits : Extent → Int
  | nothing | saved | judged => 0
  | counted => 1

/-- Only the last act adds to the count. -/
theorem credits_of (acts : List Act) :
    (of acts).credits = if .call .incrementSolvedCount ∈ acts then 1 else 0 := by
  unfold of
  split
  · rfl
  · split
    · rfl
    · split <;> rfl

/-- What is added tells how much is left. -/
theorem eq_of_sizes {extent other : Extent} (submissions : extent.submissions = other.submissions)
    (judgements : extent.judgements = other.judgements) (credits : extent.credits = other.credits) :
    extent = other := by
  revert submissions judgements credits
  cases extent <;> cases other <;> decide

end Extent

/-- **What a submission leaves in the tables.** -/
inductive Leaves (judge : Job → StateM W (Except Fault JobResult)) (request : Request)
    (before : Tables) : Extent → Tables → Prop
  | nothing : Leaves judge request before .nothing before
  | saved {language : Language} (admitted : Admitted request before language) :
      Leaves judge request before .saved (request.saved before language)
  | judged {language : Language} {job : Job} {result : JobResult}
      (judged : Judged judge request before language job result) :
      Leaves judge request before .judged (request.judged before language result)
  | counted {language : Language} {job : Job} {result : JobResult}
      (judged : Judged judge request before language job result)
      (accepted : result.verdict = .accepted)
      (unsolved : before.priorAccepted request.user request.problem = false) :
      Leaves judge request before .counted (request.credited before language result)

namespace Leaves

variable {judge : Job → StateM W (Except Fault JobResult)} {request : Request}
variable {before after : Tables} {extent other : Extent}

/-- How much is left shows in how many rows there are, and in the count of the user. -/
theorem sizes (leaves : Leaves judge request before extent after) :
    after.submissions.length = before.submissions.length + extent.submissions ∧
    after.judgements.length = before.judgements.length + extent.judgements ∧
    after.countOf request.user = before.countOf request.user + extent.credits := by
  cases leaves with
  | nothing => exact ⟨rfl, rfl, (Int.add_zero _).symm⟩
  | saved admitted => exact ⟨List.length_append, rfl, (Int.add_zero _).symm⟩
  | judged judged => exact ⟨List.length_append, List.length_append, (Int.add_zero _).symm⟩
  | @counted language job result judged accepted unsolved =>
    refine ⟨List.length_append, List.length_append, ?_⟩
    have known : (request.judged before language result).userExists request.user = true :=
      judged.known
    rw [Request.credited, Tables.countOf_incrementSolved known, if_pos rfl]
    rfl

/-- A submission leaves one of the four, and not two of them. -/
theorem unique (leaves : Leaves judge request before extent after)
    (others : Leaves judge request before other after) : extent = other := by
  obtain ⟨submissions, judgements, credits⟩ := leaves.sizes
  obtain ⟨submissions_, judgements_, credits_⟩ := others.sizes
  exact Extent.eq_of_sizes (Nat.add_left_cancel (submissions.symm.trans submissions_))
    (Nat.add_left_cancel (judgements.symm.trans judgements_))
    (Int.add_left_cancel (credits.symm.trans credits_))

/-- What a submission leaves has sound keys where the store has had them. -/
theorem keyed (leaves : Leaves judge request before extent after) (keyed : before.Keyed) :
    after.Keyed := by
  have saved (language : Language) : (request.saved before language).Keyed :=
    keyed.withSubmission _
  have judged (language : Language) (result : JobResult) :
      (request.judged before language result).Keyed :=
    (saved language).withJudgement (List.mem_append_right _ (List.mem_singleton_self _)) rfl
  cases leaves with
  | nothing => exact keyed
  | saved => exact saved _
  | judged => exact judged _ _
  | counted => exact (judged _ _).incrementSolved _

end Leaves

/-! ## Refusals -/

/-- The answer to a submission that cannot be judged: its user is not there, its problem is not there, or
its language is not supported, in this order. -/
def refusal? (request : Request) (before : Tables) : Option SubmitError :=
  if before.userExists request.user = false then some (.userNotFound request.user)
  else if before.problemExists request.problem = false then some (.problemNotFound request.problem)
  else match Language.parse? request.submission.language with
    | none => some (.unsupportedLanguage request.submission.language)
    | some _ => none

variable {judge : Job → StateM W (Except Fault JobResult)} {faults : Faults} {request : Request}
variable {before database after : Database} {stage : Stage} {acts : List Act} {act : Act}
variable {answer : Except SubmitError Outcome} {fault : Fault}

/-- A submission that is kept is not one to refuse. -/
theorem Admitted.refusal?_eq {language : Language} {tables : Tables}
    (admitted : Admitted request tables language) : refusal? request tables = none := by
  simp only [refusal?, admitted.known, admitted.posed, admitted.parsed, reduceCtorEq, ↓reduceIte]

/-- A submission that is to be refused gets no further than to the checks. -/
theorem Reached.of_refusal {error : SubmitError}
    (reached : Reached judge faults request before stage database acts)
    (refused : refusal? request before.tables = some error) :
    stage = .findUser ∨ stage = .findProblem ∧ before.tables.userExists request.user = true ∨
      ∃ answer, stage = .ended answer := by
  have admitted {language : Language} (admitted : Admitted request before.tables language) :
      False := by
    rw [admitted.refusal?_eq] at refused
    cases refused
  cases reached with
  | come => exact .inl rfl
  | foundUser known => exact .inr (.inl ⟨rfl, known⟩)
  | admitted facts => exact (admitted facts).elim
  | kept facts => exact (admitted facts).elim
  | read facts => exact (admitted facts).elim
  | posed posed => exact (admitted posed.toAdmitted).elim
  | judged judged => exact (admitted judged.toAdmitted).elim
  | locked judged => exact (admitted judged.toAdmitted).elim
  | sought judged => exact (admitted judged.toAdmitted).elim
  | first judged => exact (admitted judged.toAdmitted).elim
  | _ => exact .inr (.inr ⟨_, rfl⟩)

/-- What is asked of the store without a fault in the way fails only when the store refuses it. -/
theorem Fails.refuses {call : Call} (fails : Fails judge faults request database stage fault)
    (asks : stage.call? = some call) (quiet : faults call = none) :
    stage.afterCall request database = .error fault := by
  cases fails with
  | stopped asks_ why =>
    cases asks.symm.trans asks_
    cases quiet.symm.trans why
  | refused _ _ why => exact why
  | undelivered => cases asks

/-- An open store refuses neither check. -/
theorem afterCall_check (opened : database.isOpen = true)
    (check : stage = .findUser ∨ stage = .findProblem) :
    stage.afterCall request database ≠ .error fault := by
  intro refused
  rcases check with rfl | rfl <;>
    simp only [Stage.afterCall, Stage.afterRead, Database.query, opened, ↓reduceIte] at refused <;>
    cases refused

/-- An answer that is no failure of the store or of the dispatch is the answer to a submission that is to
be refused, and leaves everything as it was. -/
theorem Reached.refusal_of_error {error : SubmitError}
    (reached : Reached judge faults request before (.ended (.error error)) after acts) :
    (∃ fault, error = .system fault) ∨
      refusal? request before.tables = some error ∧ after = before ∧ acts.filterMap Act.job? = [] := by
  cases reached with
  | noUser unknown =>
    refine .inr ⟨?_, rfl, rfl⟩
    simp only [refusal?, unknown, ↓reduceIte]
  | noProblem known unposed =>
    refine .inr ⟨?_, rfl, rfl⟩
    simp only [refusal?, known, unposed, reduceCtorEq, ↓reduceIte]
  | noLanguage known posed strange =>
    refine .inr ⟨?_, rfl, rfl⟩
    simp only [refusal?, known, posed, strange, reduceCtorEq, ↓reduceIte]
  | failed => exact .inl ⟨_, rfl⟩

/-- A submission that is to be refused does not fail, when the checks do not. -/
theorem Reached.not_failed_of_refusal {error : SubmitError}
    (reached : Reached judge faults request before (.ended (.error (.system fault))) after acts)
    (refusal : refusal? request before.tables = some error) (opened : before.isOpen = true)
    (user : faults .userExists = none)
    (problem : before.tables.userExists request.user = true → faults .problemExists = none) :
    False := by
  cases reached with
  | failed reached asks why =>
    rcases reached.of_refusal refusal with rfl | ⟨rfl, known⟩ | ⟨answer, rfl⟩
    · cases reached
      exact afterCall_check opened (.inl rfl) (why.refuses rfl user)
    · cases reached
      exact afterCall_check opened (.inr rfl) (why.refuses rfl (problem known))
    · cases asks

/-- A submission that is to be refused is, when the checks do not fail. -/
theorem Reached.refused {error : SubmitError}
    (reached : Reached judge faults request before (.ended answer) after acts)
    (refusal : refusal? request before.tables = some error) (opened : before.isOpen = true)
    (user : faults .userExists = none)
    (problem : before.tables.userExists request.user = true → faults .problemExists = none) :
    answer = .error error ∧ after = before ∧ acts.filterMap Act.job? = [] := by
  cases answer with
  | ok outcome =>
    cases reached with
    | recorded judged => cases judged.refusal?_eq.symm.trans refusal
    | counted judged => cases judged.refusal?_eq.symm.trans refusal
  | error told =>
    rcases reached.refusal_of_error with ⟨fault, rfl⟩ | ⟨same, rest⟩
    · exact (reached.not_failed_of_refusal refusal opened user problem).elim
    · cases same.symm.trans refusal
      exact ⟨rfl, rest⟩

/-! ## The order of the acts -/

/-- What has been asked for, and what is asked for next, keep to the agenda. -/
theorem Reached.order (reached : Reached judge faults request before stage database acts) :
    ∃ job, acts ++ stage.act?.toList <+: agenda job := by
  have early (count : Nat) : ∃ job, asking.take count <+: agenda job :=
    ⟨⟨0, .go, "", [], [], 0, 0, 0⟩, (List.take_prefix ..).trans (List.prefix_append ..)⟩
  induction reached with
  | come => exact early 1
  | noUser => exact early 1
  | foundUser => exact early 2
  | noProblem => exact early 2
  | noLanguage => exact early 2
  | admitted => exact early 3
  | kept => exact early 4
  | read => exact early 5
  | @posed _ job => exact ⟨job, (agenda job).drop 6, rfl⟩
  | @judged _ job => exact ⟨job, (agenda job).drop 6, rfl⟩
  | @locked _ job => exact ⟨job, (agenda job).drop 7, rfl⟩
  | @sought _ job => exact ⟨job, (agenda job).drop 8, rfl⟩
  | @recorded _ job => exact ⟨job, (agenda job).drop 8, rfl⟩
  | @first _ job => exact ⟨job, (agenda job).drop 9, rfl⟩
  | @counted _ job => exact ⟨job, (agenda job).drop 9, rfl⟩
  | failed _ asks _ ih =>
    simpa only [asks, Stage.act?_ended, Option.toList_none, Option.toList_some, List.append_nil]
      using ih

/-! ## What is left where -/

/-- The acts that have come out well: all of them, unless the last one has failed. -/
def accomplished : Except SubmitError Outcome → List Act → List Act
  | .error (.system _), acts => acts.dropLast
  | _, acts => acts

/-- All acts of a submission with an outcome have come out well. -/
@[simp] theorem accomplished_ok (outcome : Outcome) (acts : List Act) :
    accomplished (.ok outcome) acts = acts := rfl

/-- While a submission is under way, its acts tell what it has left. -/
theorem Reached.leaves_of_act (reached : Reached judge faults request before stage database acts)
    (asks : stage.act? = some act) :
    Leaves judge request before.tables (.of acts) database.tables ∧
      database.isOpen = before.isOpen := by
  cases reached with
  | come => exact ⟨.nothing, rfl⟩
  | foundUser => exact ⟨.nothing, rfl⟩
  | admitted => exact ⟨.nothing, rfl⟩
  | kept admitted => exact ⟨.saved admitted, rfl⟩
  | read admitted => exact ⟨.saved admitted, rfl⟩
  | posed posed => exact ⟨.saved posed.toAdmitted, rfl⟩
  | judged judged => exact ⟨.saved judged.toAdmitted, rfl⟩
  | locked judged => exact ⟨.saved judged.toAdmitted, rfl⟩
  | sought judged => exact ⟨.saved judged.toAdmitted, rfl⟩
  | first judged => exact ⟨.judged judged, rfl⟩
  | _ => cases asks

/-- At the end, the acts that have come out well tell what a submission has left. -/
theorem Reached.leaves (reached : Reached judge faults request before (.ended answer) after acts) :
    Leaves judge request before.tables (.of (accomplished answer acts)) after.tables ∧
      after.isOpen = before.isOpen := by
  cases reached with
  | noUser => exact ⟨.nothing, rfl⟩
  | noProblem => exact ⟨.nothing, rfl⟩
  | noLanguage => exact ⟨.nothing, rfl⟩
  | recorded judged => exact ⟨.judged judged, rfl⟩
  | counted judged accepted unsolved => exact ⟨.counted judged accepted unsolved, rfl⟩
  | failed reached asks =>
    rw [accomplished, List.dropLast_concat]
    exact reached.leaves_of_act asks

/-! ## What an outcome stands for -/

/-- **What an outcome stands for**: the two rows that it names, which hold what was handed in and what the
judge has answered. Where the keys of the store are sound, no other rows have these numbers. -/
structure Receipt (judge : Job → StateM W (Except Fault JobResult)) (request : Request)
    (before after : Tables) (acts : List Act) (outcome : Outcome) (language : Language) (job : Job)
    (result : JobResult) : Prop extends Judged judge request before language job result where
  dispatched : acts.filterMap Act.job? = [job]
  eq_outcomeOf : outcome =
    outcomeOf (judgementOf request outcome.submission result) result outcome.judgement
  submission : (request.kept language).row outcome.submission ∈ after.submissions
  judgement : (judgementOf request outcome.submission result).row outcome.judgement ∈ after.judgements
  soleSubmission : before.Keyed → ∀ row ∈ after.submissions, row.id = outcome.submission →
    row = (request.kept language).row outcome.submission
  soleJudgement : before.Numbered → ∀ row ∈ after.judgements, row.id = outcome.judgement →
    row = (judgementOf request outcome.submission result).row outcome.judgement
  /-- Credit is asked for where the judgement is the first to accept. -/
  credit : .call .incrementSolvedCount ∈ acts ↔ outcome.verdict = .accepted ∧
    before.priorAccepted request.user request.problem = false

/-- The rows that an outcome names are those of the submission and of its judgement, whether or not the
judgement has been credited. -/
theorem Judged.receipt {language : Language} {job : Job} {result : JobResult} {tables after : Tables}
    (judged : Judged judge request tables language job result)
    (submissions : after.submissions = (request.saved tables language).submissions)
    (judgements : after.judgements = (request.judged tables language result).judgements)
    (dispatched : acts.filterMap Act.job? = [job])
    (credit : .call .incrementSolvedCount ∈ acts ↔ result.verdict = .accepted ∧
      tables.priorAccepted request.user request.problem = false) :
    Receipt judge request tables after acts
      (outcomeOf (request.judgement tables result) result (tables.lastJudgement + 1)) language job
      result where
  toJudged := judged
  dispatched := dispatched
  eq_outcomeOf := rfl
  submission := by
    rw [submissions]
    exact List.mem_append_right _ (List.mem_singleton_self _)
  judgement := by
    rw [judgements]
    exact List.mem_append_right _ (List.mem_singleton_self _)
  soleSubmission := by
    intro keyed row mem same
    rw [submissions] at mem
    exact keyed.eq_of_mem_withSubmission mem same
  soleJudgement := by
    intro numbered row mem same
    rw [judgements] at mem
    exact Tables.eq_of_mem_withJudgement numbered mem same
  credit := credit

/-- An outcome is given for rows that are there. -/
theorem Reached.receipt {outcome : Outcome}
    (reached : Reached judge faults request before (.ended (.ok outcome)) after acts) :
    ∃ language job result,
      Receipt judge request before.tables after.tables acts outcome language job result := by
  cases reached with
  | recorded judged later =>
    refine ⟨_, _, _, judged.receipt rfl rfl rfl ⟨fun mem => ?_, fun ⟨accepted, unsolved⟩ => ?_⟩⟩
    · exact absurd mem (of_decide_eq_false rfl)
    · cases (later accepted).symm.trans unsolved
  | counted judged accepted unsolved =>
    exact ⟨_, _, _, judged.receipt rfl rfl rfl
      ⟨fun _ => ⟨accepted, unsolved⟩, fun _ => of_decide_eq_true rfl⟩⟩

/-! ## Why a submission fails -/

/-- **Why an act fails** where the store is open and sound: a fault comes in the way of the call, the job
is not judged, or the cases and limits of the problem do not fit into a job. -/
inductive Cause (judge : Job → StateM W (Except Fault JobResult)) (faults : Faults)
    (request : Request) (before : Tables) : Act → Fault → Prop
  | stopped {call : Call} {fault : Fault} (why : faults call = some fault) :
      Cause judge faults request before (.call call) fault
  | undelivered {job : Job} {fault : Fault} (why : Answers judge job (.error fault)) :
      Cause judge faults request before (.dispatch job) fault
  | unfit {language : Language} {limits : Store.Limits} {fault : Fault}
      (limited : before.limits request.problem = .ok limits)
      (why : jobOf request language (before.casesOf request.problem) limits = .error fault) :
      Cause judge faults request before (.call .limits) fault

/-- An open and sound store refuses nothing that a submission asks of it; only the job may not fit. -/
theorem Reached.cause_of_afterCall {call : Call}
    (reached : Reached judge faults request before stage database acts)
    (asks : stage.call? = some call) (opened : before.isOpen = true) (keyed : before.tables.Keyed)
    (refused : stage.afterCall request database = .error fault) :
    Cause judge faults request before.tables (.call call) fault := by
  cases reached with
  | come => exact absurd refused (afterCall_check opened (.inl rfl))
  | foundUser => exact absurd refused (afterCall_check opened (.inr rfl))
  | @admitted language admitted =>
    have saved : before.tables.saveSubmission (request.kept language) =
        .ok (before.tables.lastSubmission + 1, request.saved before.tables language) :=
      Tables.saveSubmission_of_known admitted.known admitted.posed
    unfold Request.kept at saved
    simp only [Stage.afterCall, Database.change, opened, ↓reduceIte, saved] at refused
    cases refused
  | kept =>
    simp only [Stage.afterCall, Stage.afterRead, Database.query, opened, ↓reduceIte] at refused
    cases refused
  | @read language admitted =>
    obtain ⟨limits, limited⟩ := Tables.exists_limits admitted.posed
    cases asks
    exact .unfit limited (jobOf_of_refused refused opened limited)
  | locked =>
    simp only [Stage.afterCall, Stage.afterRead, Database.query, opened, ↓reduceIte] at refused
    cases refused
  | @sought language job result judged =>
    have judged_ : (request.saved before.tables language).saveJudgement
          (request.judgement before.tables result) =
        .ok (before.tables.lastJudgement + 1, request.judged before.tables language result) :=
      Tables.saveJudgement_of_unjudged keyed.unjudged
        (List.mem_append_right _ (List.mem_singleton_self _)) rfl
    simp only [Stage.afterCall, Database.change, opened, ↓reduceIte, judged_] at refused
    cases refused
  | first =>
    simp only [Stage.afterCall, Database.change, opened, ↓reduceIte] at refused
    cases refused
  | _ => cases asks

/-- In an open and sound store, a failure is that of the last act, and comes from outside or from a job that
does not fit. -/
theorem Reached.cause
    (reached : Reached judge faults request before (.ended (.error (.system fault))) after acts)
    (opened : before.isOpen = true) (keyed : before.tables.Keyed) :
    ∃ act, acts.getLast? = some act ∧ Cause judge faults request before.tables act fault := by
  cases reached with
  | @failed stage _ acts act fault reached asks why =>
    refine ⟨act, List.getLast?_concat, ?_⟩
    cases why with
    | stopped calls why =>
      cases asks.symm.trans (act?_of_call? calls)
      exact .stopped why
    | refused calls made why =>
      cases asks.symm.trans (act?_of_call? calls)
      exact reached.cause_of_afterCall calls opened keyed why
    | undelivered why =>
      cases asks
      exact .undelivered why

/-! ## The effect -/

/-- **What one submission does**: what it answers, what it leaves, and what it asks for on the way. -/
structure Effect (judge : Job → StateM W (Except Fault JobResult)) (faults : Faults)
    (request : Request) (before : Database) (answer : Except SubmitError Outcome) (after : Database)
    (trace : Trace) : Prop where
  /-- The acts keep to the agenda. -/
  order : ∃ job, trace.acts <+: agenda job
  once : trace.dispatched.length ≤ 1
  /-- A submission that is to be refused is, when the checks do not fail. -/
  refused : ∀ error, refusal? request before.tables = some error → before.isOpen = true →
    faults .userExists = none →
    (before.tables.userExists request.user = true → faults .problemExists = none) →
    answer = .error error ∧ after = before ∧ trace.dispatched = []
  refusal : ∀ error, answer = .error error → (∃ fault, error = .system fault) ∨
    refusal? request before.tables = some error ∧ after = before ∧ trace.dispatched = []
  /-- The acts that have come out well tell what is left in the tables. -/
  leaves : Leaves judge request before.tables (.of (accomplished answer trace.acts)) after.tables
  leavesOnly : ∀ extent, Leaves judge request before.tables extent after.tables →
    extent = .of (accomplished answer trace.acts)
  isOpen : after.isOpen = before.isOpen
  keyed : before.tables.Keyed → after.tables.Keyed
  /-- An outcome is given for rows that are there. -/
  receipt : ∀ outcome, answer = .ok outcome → ∃ language job result,
    Receipt judge request before.tables after.tables trace.acts outcome language job result
  /-- A failure is that of the last act. -/
  cause : ∀ fault, answer = .error (.system fault) → before.isOpen = true → before.tables.Keyed →
    ∃ act, trace.acts.getLast? = some act ∧ Cause judge faults request before.tables act fault

/-- What has been reached at the end is an effect. -/
theorem Reached.effect {trace : Trace}
    (reached : Reached judge faults request before (.ended answer) after trace.acts) :
    Effect judge faults request before answer after trace := by
  have order : ∃ job, trace.acts <+: agenda job := by
    simpa only [Stage.act?_ended, Option.toList_none, List.append_nil] using reached.order
  obtain ⟨leaves, isOpen⟩ := reached.leaves
  refine ⟨order, ?_, fun _ => reached.refused, ?_, leaves, fun _ others => others.unique leaves,
    isOpen, leaves.keyed, ?_, ?_⟩
  · obtain ⟨job, kept⟩ := order
    exact (kept.filterMap Act.job?).length_le
  · rintro error rfl
    exact reached.refusal_of_error
  · rintro outcome rfl
    exact reached.receipt
  · rintro fault rfl
    exact reached.cause

/-- **The effect of one submission.** Whatever the store holds, whichever call of the store fails, and
whatever the judge answers or fails with: the acts of a submission are the beginning of the agenda, with
one dispatch at most; a user that is not there, else a problem that is not there, else a language that is
not supported, is answered as such, with the store as it was; and the store changes by nothing, by a
submission, by a submission and its judgement, or by these and the credit for them, and by nothing else.
An outcome names the two rows that have been added, which hold what was handed in and the judge's
answer. -/
theorem submit_effect (judge : Job → StateM W (Except Fault JobResult)) (faults : Faults)
    (request : Request) (before : Database) (world : W) :
    ∃ answer after trace,
      ((submit judge faults request before).run world).1 = (answer, after, trace) ∧
      Effect judge faults request before answer after trace := by
  obtain ⟨answer, after, trace, ran, reached⟩ :=
    reached_of_submit judge faults request before world
  exact ⟨answer, after, trace, ran, reached.effect⟩

end CodeJudge.Coordinator
