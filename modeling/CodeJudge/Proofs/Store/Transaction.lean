import CodeJudge.Proofs.Store.Seeding
import CodeJudge.Store.Database

/-!
# Failed steps of the store

An operation of the store that fails leaves the whole store as it was, the next numbers included, so that
it is as if it had never been asked for.

A seed is the operation that has something to take back: it works step by step inside a transaction, on
tables of its own, and what has been done when a step is refused is dropped with them
(`Connection.transact`). That this comes to what the seed of the tables says is `transact_eq`. Every other
change is one statement, which the database takes or refuses as a whole.

**The law** (`failed_steps_unmade`): in any sequence of operations, one that fails leaves the store as it
was, for a reason that the store as it was gives (`Refusal`); without the failed operations, the others
give the answers that they gave, and lead to the same store.

That the database itself drops the statements of a transaction that is rolled back, and the numbers given
by them, is taken for granted here.
-/

namespace CodeJudge.Store

/-! ## Transactions -/

/-- A connection to the database: the tables as they have been committed and, while a transaction is under
way, as its statements have left them. -/
structure Connection where
  committed : Tables
  working : Option Tables := none
  deriving DecidableEq, Repr

namespace Connection

/-- Begins a transaction. -/
def start (connection : Connection) : Connection :=
  { connection with working := some connection.committed }

/-- Commits the transaction under way. -/
def commit (connection : Connection) : Connection where
  committed := connection.working.getD connection.committed

/-- Rolls the transaction under way back. -/
def rollback (connection : Connection) : Connection where
  committed := connection.committed

/-- Takes steps inside the transaction under way, until one is refused. -/
def execute (read : String → Except FileFault String) : List SeedStep → Connection →
    Except Fault Unit × Connection
  | [], connection => (.ok (), connection)
  | step :: rest, connection =>
    match step.perform read (connection.working.getD connection.committed) with
    | .error fault => (.error fault, connection)
    | .ok tables => execute read rest { connection with working := some tables }

/-- Takes steps inside a transaction of their own, which is rolled back when one is refused. -/
def transact (read : String → Except FileFault String) (steps : List SeedStep)
    (connection : Connection) : Except Fault Unit × Connection :=
  match execute read steps connection.start with
  | (.ok (), connection) => (.ok (), connection.commit)
  | (.error fault, connection) => (.error fault, connection.rollback)

variable {read : String → Except FileFault String} {steps : List SeedStep}
variable {committed tables after : Tables} {fault : Fault}

/-- Steps that come out well leave their tables to the transaction. -/
theorem execute_of_ok (done : steps.foldlM (SeedStep.perform read) tables = .ok after) :
    execute read steps ⟨committed, some tables⟩ = (.ok (), ⟨committed, some after⟩) := by
  induction steps generalizing tables with
  | nil =>
    cases done
    rfl
  | cons step rest ih =>
    rw [List.foldlM_cons] at done
    obtain ⟨next, first, rest⟩ := exists_of_bind_ok done
    simp only [execute, Option.getD_some, first]
    exact ih rest

/-- Where a step is refused, the transaction has come as far as the steps before it. -/
theorem execute_of_error (committed : Tables)
    (failed : steps.foldlM (SeedStep.perform read) tables = .error fault) :
    ∃ between, execute read steps ⟨committed, some tables⟩ =
      (.error fault, ⟨committed, some between⟩) := by
  induction steps generalizing tables with
  | nil => cases failed
  | cons step rest ih =>
    rw [List.foldlM_cons] at failed
    simp only [execute, Option.getD_some]
    cases first : step.perform read tables with
    | error cause =>
      rw [first] at failed
      cases failed
      exact ⟨tables, rfl⟩
    | ok next =>
      rw [first] at failed
      exact ih failed

/-- **A transaction is all or nothing**: the tables after all steps are committed, or the connection is as
it was. -/
theorem transact_eq (read : String → Except FileFault String) (steps : List SeedStep)
    (tables : Tables) :
    transact read steps ⟨tables, none⟩ =
      match steps.foldlM (SeedStep.perform read) tables with
      | .ok after => (.ok (), ⟨after, none⟩)
      | .error fault => (.error fault, ⟨tables, none⟩) := by
  rw [transact, start]
  cases came : steps.foldlM (SeedStep.perform read) tables with
  | ok after =>
    rw [execute_of_ok came]
    rfl
  | error fault =>
    -- what the statements have left by then goes with the transaction
    obtain ⟨between, failed⟩ := execute_of_error tables came
    rw [failed]
    rfl

/-- The cases of a problem are being replaced when the second of them cannot be read. -/
def replacing : List SeedStep :=
  SeedStep.ofProblem ⟨1, "sum", 1000, 65536, [{ input := some "1 2" }, { inputFile := some "lost" }]⟩

example :
    ((execute (fun _ => .error .notFound) replacing ⟨{}, some {}⟩).2.working.map (·.lastCase)) = some 1 ∧
      (transact (fun _ => .error .notFound) replacing ⟨{}, none⟩).2 = ⟨{}, none⟩ := by
  decide

end Connection

/-! ## Operations -/

/-- What is asked of the store. -/
inductive Operation
  | seed (read : String → Except FileFault String) (users : List UserEntry)
      (problems : List ProblemEntry)
  | saveSubmission (submission : NewSubmission)
  | saveJudgement (judgement : NewJudgement)
  | incrementSolved (user : Id)
  | userExists (user : Id)
  | problemExists (problem : Id)
  | casesOf (problem : Id)
  | limits (problem : Id)
  | priorAccepted (user problem : Id)
  | solvedCount (user : Id)
  | close
  | reopen (remove : Bool)

/-- What the store answers. -/
inductive Answer
  | done
  | id (id : Id)
  | flag (value : Bool)
  | cases (rows : List CaseRow)
  | limits (limits : Limits)
  | count (solved : Int)
  deriving DecidableEq, Repr

namespace Database

variable {α : Type}

/-- What a change answers, and the store that it leaves: when it fails, the one that it found. -/
def settle (database : Database) (answer : α → Answer) :
    Except Fault (α × Database) → Except Fault Answer × Database
  | .ok (result, after) => (.ok (answer result), after)
  | .error fault => (.error fault, database)

/-- Asks the tables, which leaves the store as it is. -/
def ask (database : Database) (question : Tables → Except Fault Answer) :
    Except Fault Answer × Database :=
  (database.query question, database)

/-- Seeds inside a transaction. -/
def seed (database : Database) (read : String → Except FileFault String) (users : List UserEntry)
    (problems : List ProblemEntry) : Except Fault Answer × Database :=
  if database.isOpen then
    let (result, connection) :=
      Connection.transact read (SeedStep.ofSeed users problems) ⟨database.tables, none⟩
    (result.map fun () => .done, { database with tables := connection.committed })
  else (.error (.database .closed), database)

/-- Performs an operation: what the store answers, and the store afterwards. -/
def perform (database : Database) : Operation → Except Fault Answer × Database
  | .seed read users problems => database.seed read users problems
  | .saveSubmission submission =>
    database.settle .id (database.change (·.saveSubmission submission))
  | .saveJudgement judgement => database.settle .id (database.change (·.saveJudgement judgement))
  | .incrementSolved user =>
    database.settle (fun () => .done) (database.change fun tables => .ok ((), tables.incrementSolved user))
  | .userExists user => database.ask fun tables => .ok (.flag (tables.userExists user))
  | .problemExists problem => database.ask fun tables => .ok (.flag (tables.problemExists problem))
  | .casesOf problem => database.ask fun tables => .ok (.cases (tables.casesOf problem))
  | .limits problem => database.ask fun tables => (tables.limits problem).map .limits
  | .priorAccepted user problem =>
    database.ask fun tables => .ok (.flag (tables.priorAccepted user problem))
  | .solvedCount user => database.ask fun tables => (tables.solvedCount user).map .count
  | .close => (.ok .done, database.close)
  | .reopen remove => (.ok .done, database.reopen remove)

/-- The transaction comes to a change of the tables by the whole seed. -/
theorem seed_eq (database : Database) (read : String → Except FileFault String)
    (users : List UserEntry) (problems : List ProblemEntry) :
    database.seed read users problems =
      database.settle (fun () => .done)
        (database.change fun tables => ((), ·) <$> tables.seed read users problems) := by
  unfold seed change
  split
  · simp only [Connection.transact_eq, ← Tables.seed_eq_foldlM]
    cases database.tables.seed read users problems with
    | ok after => rfl
    | error fault => rfl
  · rfl

end Database

/-! ## What fails, and why -/

/-- Whether an operation needs the connection. -/
def Operation.connects : Operation → Bool
  | .close => false
  | .reopen _ => false
  | _ => true

/-- **Why the store refuses an operation**, as far as its tables tell. -/
inductive Refusal (tables : Tables) : Operation → Fault → Prop
  /-- After steps that have come out well, there is one that the tables refuse as they are then. -/
  | seed {read : String → Except FileFault String} {users : List UserEntry}
      {problems : List ProblemEntry} {made rest : List SeedStep} {step : SeedStep} {between : Tables}
      {fault : Fault} (split : SeedStep.ofSeed users problems = made ++ step :: rest)
      (came : made.foldlM (SeedStep.perform read) tables = .ok between)
      (refused : SeedStep.Refused read between step fault) :
      Refusal tables (.seed read users problems) fault
  | stranger {submission : NewSubmission}
      (absent : tables.userExists submission.user = false ∨
        tables.problemExists submission.problem = false) :
      Refusal tables (.saveSubmission submission) (.database (.violated .reference))
  | judged {judgement : NewJudgement} {row : JudgementRow} (there : row ∈ tables.judgements)
      (same : row.submission = judgement.submission) :
      Refusal tables (.saveJudgement judgement)
        (.database (.violated (.unique "judgements.submission_id")))
  | unsubmitted {judgement : NewJudgement}
      (absent : ∀ row ∈ tables.submissions, row.id ≠ judgement.submission) :
      Refusal tables (.saveJudgement judgement) (.database (.violated .reference))
  | noLimits {problem : Id} (absent : tables.problemExists problem = false) :
      Refusal tables (.limits problem) (.database .noRow)
  | noCount {user : Id} (absent : tables.userExists user = false) :
      Refusal tables (.solvedCount user) (.database .noRow)

/-- **Why an operation fails**: the connection that it needs is closed, or the tables refuse. -/
inductive Fails (database : Database) (operation : Operation) : Fault → Prop
  | closed (shut : database.isOpen = false) (connects : operation.connects = true) :
      Fails database operation (.database .closed)
  | refused {fault : Fault} (opened : database.isOpen = true)
      (refusal : Refusal database.tables operation fault) : Fails database operation fault

namespace Tables

variable {tables : Tables} {fault : Fault}

theorem refusal_of_saveSubmission {submission : NewSubmission}
    (failed : tables.saveSubmission submission = .error fault) :
    Refusal tables (.saveSubmission submission) fault := by
  unfold saveSubmission at failed
  split at failed
  · cases failed
  · rename_i absent
    cases failed
    refine .stranger ?_
    rwa [Bool.and_eq_true, not_and_or, Bool.not_eq_true, Bool.not_eq_true] at absent

theorem refusal_of_saveJudgement {judgement : NewJudgement}
    (failed : tables.saveJudgement judgement = .error fault) :
    Refusal tables (.saveJudgement judgement) fault := by
  unfold saveJudgement at failed
  split at failed
  · rename_i judged
    cases failed
    obtain ⟨row, there, same⟩ := List.any_eq_true.mp judged
    exact .judged there (beq_iff_eq.mp same)
  · split at failed
    · cases failed
    · rename_i absent
      cases failed
      refine .unsubmitted ?_
      intro row there same
      exact absent (List.any_eq_true.mpr ⟨row, there, beq_iff_eq.mpr same⟩)

theorem refusal_of_limits {problem : Id} (failed : tables.limits problem = .error fault) :
    Refusal tables (.limits problem) fault := by
  unfold limits at failed
  split at failed
  · cases failed
  · rename_i absent
    cases failed
    refine .noLimits ?_
    rw [← Option.isSome_eq_false_iff.mpr (Option.isNone_iff_eq_none.mpr absent)]
    exact List.isSome_find?.symm

theorem refusal_of_solvedCount {user : Id} (failed : tables.solvedCount user = .error fault) :
    Refusal tables (.solvedCount user) fault := by
  unfold solvedCount at failed
  split at failed
  · cases failed
  · rename_i absent
    cases failed
    refine .noCount ?_
    rw [userExists_eq_isSome, absent, Option.isSome_none]

end Tables

namespace Database

variable {α : Type} {database : Database} {operation : Operation} {fault : Fault}

/-- A change that fails leaves the store as it was: the connection is closed, or the tables refuse it. -/
theorem fails_of_settle {act : Tables → Except Fault (α × Tables)} {answer : α → Answer}
    (failed : (database.settle answer (database.change act)).1 = .error fault)
    (connects : operation.connects = true)
    (refusal : act database.tables = .error fault → Refusal database.tables operation fault) :
    (database.settle answer (database.change act)).2 = database ∧ Fails database operation fault := by
  unfold change at failed ⊢
  cases opened : database.isOpen with
  | false =>
    simp only [opened, Bool.false_eq_true, ↓reduceIte] at failed ⊢
    cases failed
    exact ⟨rfl, .closed opened connects⟩
  | true =>
    simp only [opened, ↓reduceIte] at failed ⊢
    cases acted : act database.tables with
    | ok result =>
      rw [acted] at failed
      cases failed
    | error cause =>
      rw [acted] at failed
      cases failed
      exact ⟨rfl, .refused opened (refusal acted)⟩

/-- A question that fails finds the connection closed, or has no answer in the tables. -/
theorem fails_of_ask {question : Tables → Except Fault Answer}
    (failed : (database.ask question).1 = .error fault) (connects : operation.connects = true)
    (refusal : question database.tables = .error fault → Refusal database.tables operation fault) :
    (database.ask question).2 = database ∧ Fails database operation fault := by
  refine ⟨rfl, ?_⟩
  unfold ask query at failed
  split at failed
  · rename_i opened
    exact .refused opened (refusal failed)
  · rename_i shut
    cases failed
    exact .closed (Bool.eq_false_iff.mpr shut) connects

/-- **What fails leaves the store as it was.** -/
theorem perform_error (failed : (database.perform operation).1 = .error fault) :
    (database.perform operation).2 = database ∧ Fails database operation fault := by
  cases operation with
  | seed read users problems =>
    rw [perform, seed_eq] at failed ⊢
    refine fails_of_settle failed rfl fun cause => ?_
    obtain ⟨made, step, rest, between, split, came, refused⟩ :=
      Tables.seed_eq_error.mp (error_of_map_error cause)
    exact .seed split came refused
  | saveSubmission submission => exact fails_of_settle failed rfl Tables.refusal_of_saveSubmission
  | saveJudgement judgement => exact fails_of_settle failed rfl Tables.refusal_of_saveJudgement
  | incrementSolved user => exact fails_of_settle failed rfl nofun
  | userExists user => exact fails_of_ask failed rfl nofun
  | problemExists problem => exact fails_of_ask failed rfl nofun
  | casesOf problem => exact fails_of_ask failed rfl nofun
  | limits problem =>
    refine fails_of_ask failed rfl fun cause => ?_
    exact Tables.refusal_of_limits (error_of_map_error cause)
  | priorAccepted user problem => exact fails_of_ask failed rfl nofun
  | solvedCount user =>
    refine fails_of_ask failed rfl fun cause => ?_
    exact Tables.refusal_of_solvedCount (error_of_map_error cause)
  | close => cases failed
  | reopen remove => cases failed

/-! ## Sequences of operations -/

/-- The store after operations one after another. -/
def after (database : Database) (operations : List Operation) : Database :=
  operations.foldl (fun database operation => (database.perform operation).2) database

/-- What the store answers to operations one after another. -/
def answers (database : Database) : List Operation → List (Except Fault Answer)
  | [] => []
  | operation :: rest =>
    (database.perform operation).1 :: answers (database.perform operation).2 rest

/-- The operations that come out well, of operations one after another. -/
def succeeding (database : Database) : List Operation → List Operation
  | [] => []
  | operation :: rest =>
    match database.perform operation with
    | (.ok _, next) => operation :: succeeding next rest
    | (.error _, next) => succeeding next rest

/-- Without what fails, the rest is answered as it was and leads to the same store. -/
theorem answers_succeeding (database : Database) (operations : List Operation) :
    database.answers (database.succeeding operations) =
        (database.answers operations).filter (fun answer => answer.isOk) ∧
      database.after (database.succeeding operations) = database.after operations := by
  induction operations generalizing database with
  | nil => exact ⟨rfl, rfl⟩
  | cons operation rest ih =>
    cases performed : database.perform operation with
    | mk answer next =>
      obtain ⟨same, last⟩ := ih next
      cases answer with
      | ok found =>
        simp only [succeeding, answers, after, List.foldl_cons, performed] at last ⊢
        refine ⟨?_, last⟩
        rw [same]
        exact (List.filter_cons_of_pos rfl).symm
      | error fault =>
        -- the store is the one that was found, so the others begin where they would without the operation
        have unmade := (perform_error (congrArg Prod.fst performed)).1
        rw [performed] at unmade
        cases unmade
        simp only [succeeding, answers, after, List.foldl_cons, performed] at last ⊢
        refine ⟨?_, last⟩
        rw [same]
        exact (List.filter_cons_of_neg Bool.false_ne_true).symm

/-- **A failed operation is as if it had never been asked for.** Wherever one fails in a sequence of
operations, the store is the same after it as before, and the connection is closed or the tables give a
reason to refuse; and without all that fail, the others are answered as they were and lead to the same
store. -/
theorem failed_steps_unmade (database : Database) (operations : List Operation) :
    (∀ earlier operation later fault, operations = earlier ++ operation :: later →
      ((database.after earlier).perform operation).1 = .error fault →
      ((database.after earlier).perform operation).2 = database.after earlier ∧
        Fails (database.after earlier) operation fault) ∧
    database.answers (database.succeeding operations) =
      (database.answers operations).filter (fun answer => answer.isOk) ∧
    database.after (database.succeeding operations) = database.after operations := by
  refine ⟨?_, answers_succeeding database operations⟩
  intro earlier operation later fault _ failed
  exact perform_error failed

/-- A problem is posed, its case is to be replaced by two of which the second cannot be read, and a submission
for it is kept. -/
def reposing : List Operation := [
  .seed (fun _ => .ok "") [⟨1, "a"⟩] [⟨7, "sum", 1000, 65536, [{ input := some "1 2" }]⟩],
  .seed (fun _ => .error .notFound) []
    [⟨7, "sum", 500, 65536, [{ input := some "3 4" }, { inputFile := some "lost" }]⟩],
  .saveSubmission ⟨1, 7, .python, "print(3)", "2026-01-01 00:00:00"⟩]

/-- The store between the two seeds. -/
def posedOnce : Database := after {} (reposing.take 1)

theorem failed_steps_unmade_reposing :
    posedOnce.tables.lastCase = 1 ∧
    (∃ operation later fault, reposing = reposing.take 1 ++ operation :: later ∧
      (posedOnce.perform operation).1 = .error fault ∧ (posedOnce.perform operation).2 = posedOnce ∧
      Fails posedOnce operation fault) ∧
    answers {} (succeeding {} reposing) = [.ok .done, .ok (.id 1)] ∧
    after {} (succeeding {} reposing) = after {} reposing := by
  obtain ⟨unmade, answered, last⟩ := failed_steps_unmade {} reposing
  have failed : ∃ fault, (posedOnce.perform reposing[1]).1 = .error fault := ⟨_, rfl⟩
  obtain ⟨fault, failed⟩ := failed
  obtain ⟨same, fails⟩ := unmade (reposing.take 1) reposing[1] (reposing.drop 2) fault rfl failed
  refine ⟨rfl, ⟨reposing[1], reposing.drop 2, fault, rfl, failed, same, fails⟩, ?_, last⟩
  rw [answered]
  rfl

end Database

end CodeJudge.Store
