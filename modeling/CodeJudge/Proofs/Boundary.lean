import CodeJudge.Proofs.Coordinator.Course
import CodeJudge.Proofs.Coordinator.Keys
import CodeJudge.Proofs.Worker.Wire

/-!
# Which problems can be judged

Two checks stand between a problem and its judging. The coordinator makes a job of a problem only where the
number of its cases and its limits are words of 32 bits with a sign (`jobOf_eq_ok_iff`); a worker judges a
job only where there is a case and the limits are above zero (`Carries.validate_eq`). Neither knows of the
other.

**The law** (`problems_parted`). Between them they part the problems in three. A problem with a limit past the
words is never dispatched, and its submissions are kept without a judgement. A problem without cases or with
a limit of zero is dispatched, and comes back as a system error that says why, which is kept as the
judgement. All others are dispatched as they are posed and accepted.

**What it does not establish.** What is answered to a job that is accepted; nor anything of a dispatch that
comes to no worker.
-/

namespace CodeJudge.Store.Tables

variable {tables : Tables}

/-- The cases of a problem, sorted by their numbers. -/
def casesById (tables : Tables) (problem : Id) : List CaseRow :=
  (tables.cases.filter (·.problem == problem)).mergeSort fun first second => decide (first.id ≤ second.id)

/-- Cases that have been given their numbers in order are sorted by them. -/
theorem casesById_eq (ascending : Ascending (tables.cases.map (·.id)) tables.lastCase) (problem : Id) :
    tables.casesById problem = tables.casesOf problem := by
  have ordered : (tables.casesOf problem).Pairwise fun first second => first.id < second.id :=
    (List.pairwise_map.mp ascending.ordered).sublist List.filter_sublist
  exact List.mergeSort_of_pairwise (ordered.imp fun less => decide_eq_true less.le)

end CodeJudge.Store.Tables

namespace CodeJudge.Coordinator

open Dispatch (Policy callWorker dispatch)
open Http (Transport)
open Store (CaseRow Limits Tables)
open Worker (Served)

variable {request : Request} {language : Language} {cases : List CaseRow} {limits : Limits} {job : Job}

/-! ## What comes of a job that is refused -/

/-- **What is told and kept of a job that a worker refuses**: a system error that says why, with no case
passed. -/
structure Refused (request : Request) (language : Language) (before : Tables) (count : Nat) (fault : Job.Fault)
    (answer : Except SubmitError Outcome) (after : Tables) : Prop where
  answer : answer = .ok {
    submission := before.lastSubmission + 1
    judgement := before.lastJudgement + 1
    verdict := .systemError
    passed := 0
    total := count
    runtime := 0
    memory := 0
    output := fault.message }
  tables : after = { request.saved before language with
    judgements := before.judgements ++ [{
      id := before.lastJudgement + 1
      user := request.user
      submission := before.lastSubmission + 1
      problem := request.problem
      verdict := Verdict.systemError.code
      runtime := 0
      memory := 0
      output := fault.message }]
    lastJudgement := before.lastJudgement + 1 }

/-- A job that the judge answers with a system error is a job that is refused. -/
theorem Refused.of_systemError (carries : Carries request language cases limits job) (before : Tables)
    (fault : Job.Fault) :
    Refused request language before cases.length fault
      (.ok (outcomeOf (request.judgement before (job.systemError fault.message))
        (job.systemError fault.message) (before.lastJudgement + 1)))
      (request.judged before language (job.systemError fault.message)) where
  answer := by
    have total : job.total.toInt.toNat = cases.length := by rw [carries.total, Int.toNat_natCast]
    rw [← total]
    rfl
  tables := rfl

section

variable {W : Type} {judge : Job → StateM W (Except Fault JobResult)} {before after : Store.Database}
variable {judged : Job → Except Fault JobResult} {answer : Except SubmitError Outcome} {trace : Trace}

/-- The job that a course dispatches is the one that carries everything. -/
theorem Course.dispatched (course : Course judged request before language limits answer after trace.acts) :
    (∃ fault, jobOf request language (before.tables.casesOf request.problem) limits = .error fault ∧
      trace.dispatched = [] ∧ answer = .error (.system fault) ∧
      after.tables = request.saved before.tables language) ∨
    ∃ job, jobOf request language (before.tables.casesOf request.problem) limits = .ok job ∧
      trace.dispatched = [job] := by
  unfold Trace.dispatched
  generalize trace.acts = acts at course
  cases course with
  | unfit why => exact .inl ⟨_, why, rfl, rfl, rfl⟩
  | undelivered made => exact .inr ⟨_, made, rfl⟩
  | delivered made => exact .inr ⟨_, made, rfl⟩
  | credited made => exact .inr ⟨_, made, rfl⟩

/-- **A job is dispatched where the limits are words**, and else the submission is kept without a
judgement. -/
theorem Course.parted (course : Course judged request before language limits answer after trace.acts)
    (few : (before.tables.casesOf request.problem).length < 2 ^ 31) :
    (trace.dispatched ≠ [] ↔ limits.time ≤ 2147483647 ∧ limits.memory ≤ 2147483647) ∧
    (∀ job ∈ trace.dispatched, trace.dispatched = [job] ∧
      Carries request language (before.tables.casesOf request.problem) limits job) ∧
    (trace.dispatched = [] →
      answer = .error (.system .tooLarge) ∧ after.tables = request.saved before.tables language) := by
  rcases course.dispatched with ⟨fault, unfit, none_, rfl, kept⟩ | ⟨job, made, one⟩
  · obtain ⟨rfl, large⟩ := jobOf_eq_error unfit
    rw [none_]
    refine ⟨⟨fun some_ => absurd rfl some_, fun fits => ?_⟩, nofun, fun _ => ⟨rfl, kept⟩⟩
    omega
  · have carries := jobOf_eq_ok_iff.mp made
    rw [one]
    refine ⟨⟨fun _ => carries.fits, fun _ => List.cons_ne_nil _ _⟩, ?_, nofun⟩
    intro other mem
    obtain rfl := List.mem_singleton.mp mem
    exact ⟨rfl, carries⟩

/-- A submission whose job is answered with a system error ends with it. -/
theorem Course.refused {fault : Job.Fault}
    (course : Course judged request before language limits answer after trace.acts)
    (carries : Carries request language (before.tables.casesOf request.problem) limits job)
    (came : judged job = .ok (job.systemError fault.message)) :
    trace.dispatched = [job] ∧
      Refused request language before.tables (before.tables.casesOf request.problem).length fault answer
        after.tables := by
  have own {other : Job}
      (made : jobOf request language (before.tables.casesOf request.problem) limits = .ok other) : other = job :=
    Except.ok.inj (made.symm.trans (jobOf_eq_ok_iff.mpr carries))
  unfold Trace.dispatched
  generalize trace.acts = acts at course
  cases course with
  | unfit why => cases why.symm.trans (jobOf_eq_ok_iff.mpr carries)
  | undelivered made failed =>
    obtain rfl := own made
    cases failed.symm.trans came
  | delivered made answered =>
    obtain rfl := own made
    cases answered.symm.trans came
    exact ⟨rfl, .of_systemError carries _ fault⟩
  | credited made answered accepted =>
    obtain rfl := own made
    cases answered.symm.trans came
    cases accepted

end

/-! ## The law -/

/-- **The problems are parted in three.** Wherever seeds and submissions have led, take a submission of a user
who is there, in a language that is supported, for a problem with fewer than 2³¹ cases and with any limits,
when no call of the store fails.

Whatever the judge, one job is dispatched where both limits are words, and it carries everything as it stands
in the store, the cases sorted by their numbers. Else none is dispatched, the answer says that a number is too
large, and the submission is kept without a judgement.

A worker accepts the job where there is a case and no limit is zero. Where it does not, and the dispatch comes
to some worker, what is wrong with the job is answered and kept as a system error. -/
theorem problems_parted {W : Type} {events : List Event} {run : Run}
    (ran : Run.after? {} events = some run)
    (user : run.database.tables.userExists request.user = true)
    (parsed : Language.parse? request.submission.language = some language)
    (limited : run.database.tables.limits request.problem = .ok limits)
    (few : (run.database.tables.casesById request.problem).length < 2 ^ 31) :
    let before := run.database.tables
    let cases := before.casesById request.problem
    (∀ (judge : Job → StateM W (Except Fault JobResult)) (world : W), ∃ answer after trace,
      ((submit judge (fun _ => none) request run.database).run world).1 = (answer, after, trace) ∧
      (trace.dispatched ≠ [] ↔ limits.time ≤ 2147483647 ∧ limits.memory ≤ 2147483647) ∧
      (∀ job ∈ trace.dispatched,
        trace.dispatched = [job] ∧ Carries request language cases limits job) ∧
      (trace.dispatched = [] →
        answer = .error (.system .tooLarge) ∧ after.tables = request.saved before language)) ∧
    ∀ job, Carries request language cases limits job →
      (job.validate = .ok () ↔ 1 ≤ cases.length ∧ 1 ≤ limits.time ∧ 1 ≤ limits.memory) ∧
      ∀ fault, job.validate = .error fault →
        fault = (if cases.length = 0 then .noCases 0 else .limits) ∧
        ∀ (policy : Policy) (resolve : String → StateM W (Except Fault (List String)))
          (transport : Transport W) (counter : UInt64) (world : W),
          Served policy resolve transport job counter world →
          ∃ answer after trace,
            ((submit (fun job => Prod.fst <$> dispatch policy resolve (callWorker transport) job counter)
              (fun _ => none) request run.database).run world).1 = (answer, after, trace) ∧
            trace.dispatched = [job] ∧
            Refused request language before cases.length fault answer after.tables := by
  have opened := (pending_of_after? ran).isOpen
  have keyed := keyed_of_after? ran
  have sorted := Tables.casesById_eq (sound_of_after? ran).integral.caseIds request.problem
  rw [sorted] at few
  intro before cases
  have cases_ : cases = before.casesOf request.problem := sorted
  refine ⟨fun judge world => ?_, fun job carries =>
    ⟨carries.validate_ok_iff, fun fault refused => ⟨carries.validate_error refused, ?_⟩⟩⟩
  · obtain ⟨answer, after, trace, submitted, course⟩ :=
      course_of_submit judge world opened keyed user parsed limited
    rw [cases_]
    exact ⟨answer, after, trace, submitted, course.parted few⟩
  · intro policy resolve transport counter world served
    obtain ⟨answer, after, trace, submitted, course⟩ := course_of_submit
      (fun job => Prod.fst <$> dispatch policy resolve (callWorker transport) job counter) world opened keyed user
      parsed limited
    rw [cases_] at carries ⊢
    refine ⟨answer, after, trace, submitted, course.refused carries ?_⟩
    rw [run_map]
    exact Worker.dispatch_of_refused served refused

/-! ## A problem without time -/

/-- A worker that never gets to do anything. -/
def idleBench : Worker.Bench Unit where
  makeDirectory _ := return .ok ""
  compile _ _ _ := return .ok (.failure "")
  resolve _ _ _ _ := return Resolver.withoutCases
  removeDirectory _ := return ()

/-- The only toolchain. -/
def soleToolchains : Sandbox.Toolchains :=
  ⟨fun _ => { fileName := "main.py", compile := none, run := ["python3", "main.py"] }⟩

/-- Nobody takes calls at the first address, and a worker does at every other. -/
def secondAnswers : Transport Unit where
  send authority request :=
    if authority = "127.0.0.1:1" then return .error Http.unreachable
    else (Transport.ofServer fun request => some <$> Worker.serve idleBench soleToolchains request).send authority
      request

/-- A problem is seeded that allows no time. -/
def timeless : List Event :=
  [.seed (fun _ => .ok "") [⟨1, "a"⟩] [⟨7, "b", 0, 65536, [{ input := some "3", expected := some "3" }]⟩]]

def timelessRun : Run := (Run.after? {} timeless).getD {}

def hasty : Request := ⟨⟨1, 7, "python", "print(input())"⟩, "2026-01-01 00:00:00"⟩

def timelessJob : Job := ⟨1, .python, "print(input())", ["3"], ["3"], 0, 65536, 1⟩

theorem served_timeless : Served ⟨"judge-worker", 2⟩ (fun _ => return .ok ["127.0.0.1:1", "127.0.0.1:2"])
    secondAnswers timelessJob 0 () :=
  .reached rfl (.later rfl rfl (.now rfl)) ⟨by decide, rfl⟩ (by decide +kernel)

theorem problems_parted_timeless :
    Run.after? {} timeless = some timelessRun ∧
    timelessRun.database.tables.limits 7 = .ok ⟨0, 65536⟩ ∧
    (timelessRun.database.tables.casesById 7).length = 1 ∧
    timelessJob.validate = .error .limits ∧
    ∃ answer after trace,
      ((submit (fun job => Prod.fst <$> dispatch ⟨"judge-worker", 2⟩
          (fun _ => return .ok ["127.0.0.1:1", "127.0.0.1:2"]) (callWorker secondAnswers) job 0)
        (fun _ => none) hasty timelessRun.database).run ()).1 = (answer, after, trace) ∧
      trace.dispatched = [timelessJob] ∧
      Refused hasty .python timelessRun.database.tables 1 .limits answer after.tables := by
  have ran : Run.after? {} timeless = some timelessRun := rfl
  have limited : timelessRun.database.tables.limits 7 = .ok ⟨0, 65536⟩ := rfl
  have cases : timelessRun.database.tables.casesById 7 = [⟨1, 7, "3", "3"⟩] :=
    Tables.casesById_eq (sound_of_after? ran).integral.caseIds 7
  have carries : Carries hasty .python (timelessRun.database.tables.casesById 7) ⟨0, 65536⟩ timelessJob := by
    rw [cases]
    exact ⟨rfl, rfl, rfl, rfl, rfl, rfl, rfl, rfl⟩
  have one : (timelessRun.database.tables.casesById 7).length = 1 := by rw [cases]; rfl
  have few : (timelessRun.database.tables.casesById 7).length < 2 ^ 31 := by rw [one]; decide
  have user : timelessRun.database.tables.userExists hasty.user = true := rfl
  have parsed : Language.parse? hasty.submission.language = some .python := rfl
  obtain ⟨-, parted⟩ := problems_parted (W := Unit) ran user parsed limited few
  obtain ⟨-, refused⟩ := parted timelessJob carries
  obtain ⟨-, told⟩ := refused .limits rfl
  refine ⟨ran, limited, one, rfl, ?_⟩
  rw [← one]
  exact told _ _ _ 0 () served_timeless

end CodeJudge.Coordinator
