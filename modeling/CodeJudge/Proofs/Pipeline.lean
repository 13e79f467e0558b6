import CodeJudge.Proofs.Coordinator.Alone
import CodeJudge.Proofs.Worker.Runner
import CodeJudge.Proofs.Worker.Wire

/-!
# The whole pipeline

A submission goes from the store through a job to a worker and back: the cases that a seed has brought in
are read in order, taken apart, written, sent, read, checked, paired again and numbered, and the runner is
started for them; what their race resolves to is written, sent, read, and becomes the outcome.

**The law** (`cases_reach_runner`): nothing is lost, changed or put in another place on the way. It holds of
every submission among others, as long as no call of the store fails and the first call of the dispatch
reaches a worker at which the source compiles.

**What it does not establish.** Anything about submissions whose problem is seeded anew between the reading
of its cases and of its limits; nor when the cases run.
-/

namespace CodeJudge.Pipeline

open Coordinator (Event Judgeable Outcome Request Run Undisturbed judgementOf outcomeOf
  outcome_of_undisturbed stages steps submit submit_of_posed)
open Dispatch (Policy callWorker dispatch slot)
open Http (Transport)
open Resolver (Resolution StartedRace counted)
open Sandbox (Artifact Case Toolchains)
open Store (Posing)
open Worker (Crew Reaches RunnerCall casesOf resolved)

/-- How jobs come to a worker: who knows of workers, what carries a job to one, and what a worker has around
its decisions. -/
structure Route (W : Type) where
  policy : Policy
  resolve : String → StateM W (Except Fault (List String))
  transport : Transport (W × List RunnerCall)
  crew : Crew W
  toolchains : Toolchains

/-- Has a job judged over a route, with all calls of runners noted. -/
def Route.judge {W : Type} (route : Route W) (counter : UInt64) (job : Job) :
    StateM (W × List RunnerCall) (Except Fault JobResult) :=
  Prod.fst <$> dispatch route.policy (fun service => unnoted (route.resolve service))
    (callWorker route.transport) job counter

/-- The cases of a problem as they are numbered for a runner. -/
def numbered (posing : Posing) : List Case :=
  posing.cases.mapIdx fun index (input, expected) => { index, input, expected }

/-- **A job whose first call arrives**: the instance whose turn it is is a worker that is reached, the job is
not too long to be read there, and its source compiles. -/
inductive Arrives {W : Type} (route : Route W) (counter : UInt64) (job : Job) (world : W)
    (artifact : Artifact) (compiled : W) : Prop
  | first {instances : List String} {address directory : String} {found made : W}
      (resolves : (route.resolve route.policy.service).run world = (.ok instances, found))
      (turn : instances[slot counter instances.length]? = some address)
      (reaches : Reaches route.transport route.crew.noted route.toolchains address)
      (fits : Http.Fits Worker.bodyLimit job.toJson)
      (makes : (route.crew.setting.bench.makeDirectory job.user).run found = (.ok directory, made))
      (compiles : (route.crew.setting.bench.compile (route.toolchains.get job.language) directory
        job.source).run made = (.ok (.success artifact), compiled))

/-- **What comes of cases on their way** to a runner and back. -/
structure Intact (posing : Posing) (artifact : Artifact) (calls : List RunnerCall) (resolution : Resolution)
    (outcome : Outcome) : Prop where
  /-- The runner is given a case as it was posed, the limit of the problem, and the one artifact. -/
  given : ∀ call ∈ calls, call.artifact = artifact ∧ call.memoryLimit = posing.limits.memory ∧
    posing.cases[call.case.index]? = some (call.case.input, call.case.expected)
  once : (calls.map (·.case.index)).Nodup
  count : resolution.total = posing.cases.length
  verdict : outcome.verdict = resolution.verdict
  passed : outcome.passed = resolution.passed
  total : outcome.total = resolution.total
  output : outcome.output = resolution.output
  runtime : outcome.runtime = min resolution.runtime 2147483647
  memory : outcome.memory = min resolution.memory 2147483647

variable {artifact : Artifact} {request : Request} {language : Language} {posing : Posing}

/-! ## To the worker -/

theorem toNat_toInt_ofNat {n : Nat} (small : n ≤ 2147483647) : (Int32.ofNat n).toInt.toNat = n := by
  rw [Int32.toInt_ofNat_of_lt (Nat.lt_succ_of_le small), Int.toNat_natCast]

/-- The job of a problem that fits has the shape that workers ask for. -/
theorem validate_jobFor (fits : Judgeable posing) : (request.jobFor language posing).validate = .ok () := by
  have narrowed {n : Nat} (small : n ≤ 2147483647) : (Int32.ofNat n).toInt = n :=
    Int32.toInt_ofNat_of_lt (Nat.lt_succ_of_le small)
  refine Job.validate_eq_ok_iff.mpr ⟨?_, ?_, ?_, ?_, ?_⟩
  · rw [Request.jobFor, narrowed fits.cases.2]
    exact Int.ofNat_le.mpr fits.cases.1
  · rw [Request.jobFor, List.length_map, toNat_toInt_ofNat fits.cases.2]
  · rw [Request.jobFor, List.length_map, toNat_toInt_ofNat fits.cases.2]
  · rw [Request.jobFor, narrowed fits.time.2]
    exact Int.ofNat_lt.mpr fits.time.1
  · rw [Request.jobFor, narrowed fits.memory.2]
    exact Int.ofNat_lt.mpr fits.memory.1

/-- The cases of the job are those of the problem, numbered in their order. -/
theorem casesOf_jobFor : casesOf (request.jobFor language posing) = numbered posing := by
  rw [casesOf, Request.jobFor, List.zip_map', numbered]
  simp only [Prod.mk.eta, List.map_id']

theorem length_numbered (posing : Posing) : (numbered posing).length = posing.cases.length :=
  List.length_mapIdx

theorem getElem?_numbered {index : Nat} {case : Case} (here : (numbered posing)[index]? = some case) :
    case.index = index ∧ posing.cases[index]? = some (case.input, case.expected) := by
  rw [numbered, List.getElem?_mapIdx] at here
  obtain ⟨⟨input, expected⟩, there, rfl⟩ := Option.map_eq_some_iff.mp here
  exact ⟨rfl, there⟩

section

variable {W : Type} {route : Route W} {counter : UInt64} {world compiled : W}

/-- **A job whose first call arrives** is answered with what its cases resolve to, and the runner is started
as in their race. -/
theorem judge_of_arrives {job : Job} (valid : job.validate = .ok ())
    (arrives : Arrives route counter job world artifact compiled) :
    ∃ race finished last,
      (route.crew.setting.bench.resolve artifact (casesOf job)
        (Nanos.ofMilliseconds job.timeLimit.toInt.toNat) job.memoryLimit.toInt.toNat).run compiled =
          (race.answer, finished) ∧
      (route.judge counter job).run (world, []) =
        (.ok (resolved job race.answer), last,
          RunnerCall.ofRace artifact (casesOf job) job.memoryLimit.toInt.toNat race) := by
  cases arrives with
  | @first instances address directory found made resolves turn reaches fits makes compiles =>
    obtain ⟨race, finished, noted, plain⟩ := Worker.resolve_noted route.crew artifact
      (Nanos.ofMilliseconds job.timeLimit.toInt.toNat) job.memoryLimit.toInt.toNat
      (Worker.counted_casesOf valid) compiled []
    obtain ⟨last, answered⟩ :=
      Worker.answer_of_compiled route.crew route.toolchains valid makes compiles noted
    have asked : (unnoted (route.resolve route.policy.service)).run (world, ([] : List RunnerCall)) =
        (.ok instances, found, []) := by
      rw [unnoted_run, resolves]
    have called := Worker.callWorker_of_reaches reaches fits (found, [])
    rw [answered] at called
    have dispatched : (dispatch route.policy (fun service => unnoted (route.resolve service))
        (callWorker route.transport) job counter).run (world, ([] : List RunnerCall)) =
          ((.ok (resolved job race.answer), counter + 1), last, _) :=
      Worker.dispatch_of_first asked turn called
    refine ⟨race, finished, last, plain, ?_⟩
    rw [Route.judge, run_map, dispatched, List.nil_append]

end

/-! ## And back -/

/-- What a race resolves to comes back as it is, with its measurements capped. -/
theorem intact_of_race (fits : Judgeable posing) (race : StartedRace (numbered posing).length) (job : Job)
    (submission id : Store.Id) :
    Intact posing artifact (RunnerCall.ofRace artifact (numbered posing) posing.limits.memory race) race.answer
      (outcomeOf (judgementOf request submission (resolved job race.answer)) (resolved job race.answer) id) := by
  have few : (numbered posing).length ≤ 2147483647 := (length_numbered posing).symm ▸ fits.cases.2
  obtain ⟨before, -, -, -, safe⟩ := race.race.safe (by omega)
  have total : race.answer.total = posing.cases.length := safe.total.trans (length_numbered posing)
  have passed : race.answer.passed ≤ posing.cases.length := length_numbered posing ▸ safe.within
  have capped (n : Nat) : (Worker.capped n).toInt.toNat = min n 2147483647 := by
    rw [Worker.toInt_capped, Int.toNat_natCast, Worker.greatest]
  refine ⟨?_, ?_, total, rfl, ?_, ?_, ?_, capped _, capped _⟩
  · intro call mem
    obtain ⟨artifact_, limit, there⟩ := RunnerCall.mem_ofRace mem
    obtain ⟨index, here⟩ := List.getElem?_of_mem there
    obtain ⟨same, posed⟩ := getElem?_numbered here
    exact ⟨artifact_, limit, same ▸ posed⟩
  · rw [RunnerCall.indices_ofRace race fun index case here => (getElem?_numbered here).1]
    exact race.started_nodup
  · exact toNat_toInt_ofNat (passed.trans fits.cases.2)
  · exact toNat_toInt_ofNat (total.le.trans fits.cases.2)
  · show (if race.answer.output.isEmpty then none else some race.answer.output).getD "" = race.answer.output
    split
    · rename_i empty
      exact (String.isEmpty_iff.mp empty).symm
    · rfl

/-! ## The law -/

/-- **Cases reach the runner intact, and what comes of them reaches the submitter.** Wherever seeds and
submissions have led, take a submission of a user who is there, in a language that is supported, for a
problem whose latest seed has posed it with cases and limits that fit, and let its job arrive at a worker
where the source compiles.

The cases that are resolved there are those that were posed, in their order. The submission has its outcome
when it is alone, and after ten steps when others come between them, as long as no call fails that it
makes; and either way the runner is started for no other cases, for none twice, and always with the one
artifact and the limit of the problem, and the outcome is what the cases resolve to. -/
theorem cases_reach_runner {W : Type} {route : Route W} {counter : UInt64} {world compiled : W}
    {earlier : List Event} {run : Run} (ran : Run.after? {} earlier = some run) (fits : Judgeable posing)
    (user : run.database.tables.userExists request.user = true)
    (parsed : Language.parse? request.submission.language = some language)
    (arrives : Arrives route counter (request.jobFor language posing) world artifact compiled) :
    ∃ resolution finished,
      (route.crew.setting.bench.resolve artifact (numbered posing)
        (Nanos.ofMilliseconds posing.limits.time) posing.limits.memory).run compiled =
          (resolution, finished) ∧
      ((Run.posings {} request.problem earlier).getLast? = some posing →
        ∃ outcome after trace last calls,
          (submit (route.judge counter) (fun _ => none) request run.database).run (world, []) =
            ((.ok outcome, after, trace), last, calls) ∧
          Intact posing artifact calls resolution outcome) ∧
      ∀ later last index, run.active[index]? = some { request } → run.after? later = some last →
        (Undisturbed earlier later run index request.problem posing fun job =>
          ((route.judge counter job).run (world, [])).1) →
        stages ≤ steps index later →
        ∃ outcome, last.active[index]? = some ⟨request, .ended (.ok outcome)⟩ ∧
          Intact posing artifact
            ((route.judge counter (request.jobFor language posing)).run (world, [])).2.2 resolution outcome := by
  have time : (request.jobFor language posing).timeLimit.toInt.toNat = posing.limits.time :=
    toNat_toInt_ofNat fits.time.2
  have memory : (request.jobFor language posing).memoryLimit.toInt.toNat = posing.limits.memory :=
    toNat_toInt_ofNat fits.memory.2
  have judged := judge_of_arrives (validate_jobFor fits) arrives
  rw [time, memory, casesOf_jobFor] at judged
  obtain ⟨race, finished, rest, resolves, judges⟩ := judged
  have intact (submission id : Store.Id) : Intact posing artifact
      (RunnerCall.ofRace artifact (numbered posing) posing.limits.memory race) race.answer
      (outcomeOf (judgementOf request submission (resolved (request.jobFor language posing) race.answer))
        (resolved (request.jobFor language posing) race.answer) id) :=
    intact_of_race fits race _ submission id
  refine ⟨race.answer, finished, resolves, ?_, ?_⟩
  · intro posed
    obtain ⟨submission, id, after, trace, submitted⟩ := submit_of_posed ran posed fits user parsed judges
    exact ⟨_, after, trace, rest, _, submitted, intact submission id⟩
  · intro later last index here going undisturbed enough
    obtain ⟨submission, id, ended⟩ := outcome_of_undisturbed ran here going fits user parsed undisturbed
      (congrArg Prod.fst judges) enough
    refine ⟨_, ended, ?_⟩
    rw [judges]
    exact intact submission id

/-! ## One submission -/

/-- A host on which everything can be done, and nothing is kept. -/
def easyHost : Sandbox.Host Unit where
  write _ _ := return .ok ()
  read _ := return .ok .empty
  run _ := return .unfinished
  makeDirectory root _ := return .ok root
  removeDirectory _ := return ()
  resident := return none

/-- Two cases are started, the first passes and the second fails. -/
def secondFails : StartedRace 2 where
  happenings :=
    [.start 0, .start 1, .step (.finish 0 (.ok ⟨.pass, 0, 0, ""⟩)),
      .step (.finish 1 (.ok ⟨.wrongAnswer, 0, 0, "5"⟩)), .step .receive, .step .read, .step .join]
  last := _
  answer := ⟨.wrongAnswer, 1, 2, 0, 0, "5"⟩
  ran := rfl
  ended := rfl

/-- The budget elapses before a case is started. -/
def noneStarted (cases : Nat) : StartedRace cases where
  happenings := [.step .ring, .step .expire, .step .read, .step .join]
  last := _
  answer := Resolver.resolution (counted cases) .budgetElapsed {}
  ran := rfl
  ended := rfl

def easyCrew : Crew Unit where
  host := easyHost
  root := "/jobs"
  compileTime := 0
  race
    | _, [_, _], _, _ => return secondFails
    | _, cases, _, _ => return noneStarted cases.length

/-- Programs are run as they are. -/
def asIs : Toolchains := ⟨fun _ => { fileName := "main.py", compile := none, run := ["python3", "main.py"] }⟩

def easyRoute : Route Unit where
  policy := { service := judgeService, attempts := 1 }
  resolve _ := return .ok ["127.0.0.1:8081"]
  transport := .ofServer fun request => some <$> Worker.serve easyCrew.noted asIs request
  crew := easyCrew
  toolchains := asIs

def echo : Request := ⟨⟨1, 7, "python", "print(input())"⟩, "2026-01-01 00:00:00"⟩

def echoPosing : Posing := ⟨⟨1000, 65536⟩, [("3", "3"), ("5", "6")]⟩

def echoJob : Job := echo.jobFor .python echoPosing

def echoArtifact : Artifact :=
  ⟨"/jobs", (Sandbox.placeholders "/jobs" "main.py").command ["python3", "main.py"]⟩

def echoResult : JobResult := ⟨1, .wrongAnswer, 1, 2, 0, 0, some "5"⟩

/-- A problem is seeded, the answer to its second case from a file, and a submission comes. -/
def posedOnce : List Event :=
  [.seed (fun _ => .ok "6") [⟨1, "a"⟩]
    [⟨7, "b", 1000, 65536, [{ input := some "3", expected := some "3" },
      { input := some "5", answerFile := some "5.ans" }]⟩],
    .come echo]

/-- The submission makes its steps. -/
def echoed : List Event := .replicate stages (.step 0 none (.ok echoResult))

def runOnce : Run := (Run.after? {} posedOnce).getD {}

theorem arrives_echo : Arrives easyRoute 0 echoJob () echoArtifact () :=
  .first rfl rfl ⟨by decide, rfl⟩ (by decide +kernel) rfl rfl

theorem delivers_echo : ((easyRoute.judge 0 echoJob).run ((), [])).1 = .ok echoResult := by
  obtain ⟨race, finished, last, resolves, judges⟩ := judge_of_arrives rfl arrives_echo
  have answer : race.answer = secondFails.answer := congrArg Prod.fst resolves.symm
  rw [judges, answer]
  rfl

/-- Before each step the problem is posed as it was seeded, and the sixth dispatches the job. -/
theorem before_step_echo : ∀ count < stages,
    (Run.posings {} 7 (posedOnce ++ echoed.take count)).getLast? = some echoPosing ∧
      ((runOnce.after? (echoed.take count)).bind fun run => run.active[0]?.bind (·.stage.job?)) =
        if count = 5 then some echoJob else none := by
  decide +kernel

theorem undisturbed_echo : Undisturbed posedOnce echoed runOnce 0 7 echoPosing fun job =>
    ((easyRoute.judge 0 job).run ((), [])).1 := by
  have made {past : List Event} {stage : Coordinator.Stage} {fault : Option Fault}
      {judged : Except Fault JobResult} (makes : Coordinator.Makes runOnce 0 echoed past stage fault judged) :
      past.length < stages ∧ past = echoed.take past.length ∧ fault = none ∧ judged = .ok echoResult := by
    obtain ⟨future, split⟩ := makes.split
    have mem : Event.step 0 fault judged ∈ echoed := by
      rw [split]
      exact List.mem_append_right _ List.mem_cons_self
    have same := List.eq_of_mem_replicate mem
    have length := congrArg List.length split
    rw [List.length_append, List.length_cons, echoed, List.length_replicate] at length
    refine ⟨by omega, ?_, ?_, ?_⟩
    · rw [split, List.take_left]
    · cases same
      rfl
    · cases same
      rfl
  refine ⟨fun makes => (made makes).2.2.1, ?_, ?_⟩
  · intro past stage fault judged makes _
    obtain ⟨few, part, -, -⟩ := made makes
    rw [part]
    exact (before_step_echo _ few).1
  · intro past stage fault judged job makes asks
    obtain ⟨few, part, -, rfl⟩ := made makes
    obtain ⟨between, active, went, there, rfl⟩ := makes.stands
    have dispatched := (before_step_echo _ few).2
    rw [← part, went, Option.bind_some, there, Option.bind_some, asks] at dispatched
    split at dispatched
    · cases dispatched
      exact delivers_echo.symm
    · cases dispatched

theorem cases_reach_runner_echo :
    runOnce.active[0]? = some { request := echo } ∧ stages ≤ steps 0 echoed ∧
    ∃ resolution finished,
      (easyRoute.crew.setting.bench.resolve echoArtifact [⟨0, "3", "3"⟩, ⟨1, "5", "6"⟩]
        (Nanos.ofMilliseconds 1000) 65536).run () = (resolution, finished) ∧
      (∃ outcome after trace last calls,
        (submit (easyRoute.judge 0) (fun _ => none) echo runOnce.database).run ((), []) =
          ((.ok outcome, after, trace), last, calls) ∧
        Intact echoPosing echoArtifact calls resolution outcome) ∧
      ∃ outcome last, runOnce.after? echoed = some last ∧
        last.active[0]? = some ⟨echo, .ended (.ok outcome)⟩ ∧
        Intact echoPosing echoArtifact ((easyRoute.judge 0 echoJob).run ((), [])).2.2 resolution outcome := by
  have ran : Run.after? {} posedOnce = some runOnce := rfl
  have fits : Judgeable echoPosing := ⟨by decide, by decide, by decide⟩
  have user : runOnce.database.tables.userExists echo.user = true := rfl
  have parsed : Language.parse? echo.submission.language = some .python := rfl
  obtain ⟨resolution, finished, resolves, alone, amid⟩ :=
    cases_reach_runner ran fits user parsed arrives_echo
  obtain ⟨outcome, ended, intact⟩ :=
    amid echoed ((runOnce.after? echoed).getD {}) 0 rfl rfl undisturbed_echo (by decide)
  exact ⟨rfl, by decide, resolution, finished, resolves, alone rfl, outcome, _, rfl, ended, intact⟩

end CodeJudge.Pipeline
