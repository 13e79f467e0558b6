import CodeJudge.Proofs.Resolver.Start
import CodeJudge.Proofs.Worker.Answer

/-!
# What a runner is started for

The cases of a job race with one another, and for each the runner is started once at most. Here every start
is noted with all that the runner is given, on whatever host and however the cases come to race.

The resolver gives the runner the cases that it was given itself, one for every start and none twice
(`RunnerCall.ofRace`), so that a job whose source compiles has the runner started for its own cases
(`answer_of_compiled`). To note this changes nothing (`answer_noted`), and the bench of a host is among the
benches of which this is said (`exists_crew`).
-/

namespace CodeJudge.Worker

open Resolver (Race Resolution StartedRace counted withoutCases)
open Sandbox (Artifact Case Compilation Host SourceFault Toolchain Toolchains)

/-- All that a runner is given when it is started. -/
structure RunnerCall where
  artifact : Artifact
  case : Case
  memoryLimit : Nat
  deriving DecidableEq, Repr

/-- What the runner is given in a race, one call for every start. -/
def RunnerCall.ofRace (artifact : Artifact) (cases : List Case) (memoryLimit : Nat)
    (race : StartedRace cases.length) : List RunnerCall :=
  race.started.filterMap fun index =>
    cases[index]?.map fun case => { artifact, case, memoryLimit }

/-- What a worker has around its decisions: a host, and however the cases of a job come to race, with the
starts in the race. -/
structure Crew (W : Type) where
  host : Host W
  root : String
  compileTime : Nanos
  race : Artifact → (cases : List Case) → (budget : Nanos) → (memoryLimit : Nat) →
    StateM W (StartedRace cases.length)

/-- A crew, when nothing is told of the starts. -/
def Crew.setting {W : Type} (crew : Crew W) : Setting W where
  host := crew.host
  root := crew.root
  compileTime := crew.compileTime
  race artifact cases budget memoryLimit :=
    StartedRace.race <$> crew.race artifact cases budget memoryLimit

/-- The bench of a crew on which every call of the runner is noted. -/
def Crew.noted {W : Type} (crew : Crew W) : Bench (W × List RunnerCall) where
  makeDirectory user := unnoted (crew.setting.bench.makeDirectory user)
  compile toolchain directory source := unnoted (crew.setting.bench.compile toolchain directory source)
  resolve artifact cases budget memoryLimit :=
    if counted cases.length = 0 then return withoutCases
    else do
      let race ← recording (RunnerCall.ofRace artifact cases memoryLimit)
        (crew.race artifact cases budget memoryLimit)
      return race.answer
  removeDirectory directory := unnoted (crew.setting.bench.removeDirectory directory)

variable {W : Type} {artifact : Artifact} {cases : List Case} {memoryLimit : Nat}

/-! ## The calls of a race -/

/-- Every call gives the artifact, the limit, and a case of the job. -/
theorem RunnerCall.mem_ofRace {race : StartedRace cases.length} {call : RunnerCall}
    (mem : call ∈ ofRace artifact cases memoryLimit race) :
    call.artifact = artifact ∧ call.memoryLimit = memoryLimit ∧ call.case ∈ cases := by
  obtain ⟨index, -, given⟩ := List.mem_filterMap.mp mem
  obtain ⟨case, here, rfl⟩ := Option.map_eq_some_iff.mp given
  exact ⟨rfl, rfl, List.mem_of_getElem? here⟩

/-- Where cases are numbered by their places, there is a call for every start, with its number. -/
theorem RunnerCall.indices_ofRace (race : StartedRace cases.length)
    (numbered : ∀ (index : Nat) (case : Case), cases[index]? = some case → case.index = index) :
    (ofRace artifact cases memoryLimit race).map (·.case.index) = race.started := by
  have own : ∀ starts : List Nat, (∀ index ∈ starts, index < cases.length) →
      (starts.filterMap fun index => cases[index]?.map fun case =>
        ({ artifact, case, memoryLimit } : RunnerCall)).map (·.case.index) = starts := by
    intro starts known
    induction starts with
    | nil => rfl
    | cons index rest ih =>
      obtain ⟨case, here⟩ : ∃ case, cases[index]? = some case :=
        ⟨_, List.getElem?_eq_getElem (known index List.mem_cons_self)⟩
      rw [List.filterMap_cons, here, Option.map_some, List.map_cons,
        ih fun other mem => known other (List.mem_cons_of_mem _ mem)]
      exact congrArg (· :: rest) (numbered index case here)
  exact own race.started race.started_lt

/-! ## Answers with the calls noted -/

section

variable (crew : Crew W) (toolchains : Toolchains)

/-- What cases resolve to comes of a race, and the runner is started as in the race. -/
theorem resolve_noted (artifact : Artifact) (budget : Nanos) (memoryLimit : Nat)
    (some_ : counted cases.length ≠ 0) (world : W) (calls : List RunnerCall) :
    ∃ race last, (crew.noted.resolve artifact cases budget memoryLimit).run (world, calls) =
        (race.answer, last, calls ++ RunnerCall.ofRace artifact cases memoryLimit race) ∧
      (crew.setting.bench.resolve artifact cases budget memoryLimit).run world = (race.answer, last) := by
  refine ⟨((crew.race artifact cases budget memoryLimit).run world).1,
    ((crew.race artifact cases budget memoryLimit).run world).2, ?_, ?_⟩
  · simp only [Crew.noted, some_, ↓reduceIte, run_bind, recording_run, run_pure]
  · simp only [Setting.bench, Setting.over, Crew.setting, some_, ↓reduceIte, run_bind, run_map, run_pure]
    rfl

/-- What is done in the directory of a job is the same with the calls noted. -/
theorem judgeIn_noted {job : Job} (some_ : counted (casesOf job).length ≠ 0) (directory : String) (world : W)
    (calls : List RunnerCall) :
    ∃ more, (judgeIn crew.noted toolchains job directory).run (world, calls) =
      (((judgeIn crew.setting.bench toolchains job directory).run world).1,
        ((judgeIn crew.setting.bench toolchains job directory).run world).2, calls ++ more) := by
  have compile : crew.noted.compile (toolchains.get job.language) directory job.source =
      unnoted (crew.setting.bench.compile (toolchains.get job.language) directory job.source) := rfl
  cases compiled : (crew.setting.bench.compile (toolchains.get job.language) directory job.source).run world with
  | mk came between =>
    simp only [judgeIn, run_bind, compile, unnoted_run, compiled]
    rcases came with fault | artifact | diagnostics
    · exact ⟨[], by simp only [run_pure, List.append_nil]⟩
    · obtain ⟨race, last, noted, plain⟩ := resolve_noted crew artifact
        (Nanos.ofMilliseconds job.timeLimit.toInt.toNat) job.memoryLimit.toInt.toNat some_ between calls
      simp only [run_bind, noted, plain, run_pure]
      exact ⟨_, rfl⟩
    · exact ⟨[], by simp only [run_pure, List.append_nil]⟩

/-- **To note what the runner is started for changes nothing**: neither the answer nor the world. -/
theorem answer_noted (job : Job) (world : W) (calls : List RunnerCall) :
    ∃ more, (answer crew.noted toolchains job).run (world, calls) =
      (((answer crew.setting.bench toolchains job).run world).1,
        ((answer crew.setting.bench toolchains job).run world).2, calls ++ more) := by
  have makeDirectory : crew.noted.makeDirectory job.user =
      unnoted (crew.setting.bench.makeDirectory job.user) := rfl
  have removeDirectory (directory : String) : crew.noted.removeDirectory directory =
      unnoted (crew.setting.bench.removeDirectory directory) := rfl
  cases valid : job.validate with
  | error fault =>
    simp only [answer, valid, run_pure]
    exact ⟨[], by rw [List.append_nil]⟩
  | ok _ =>
    cases made : (crew.setting.bench.makeDirectory job.user).run world with
    | mk came between =>
      simp only [answer, valid, judge, run_bind, makeDirectory, unnoted_run, made]
      cases came with
      | error fault => exact ⟨[], by simp only [run_pure, List.append_nil]⟩
      | ok directory =>
        obtain ⟨more, noted⟩ :=
          judgeIn_noted crew toolchains (counted_casesOf valid) directory between calls
        simp only [run_bind, noted, removeDirectory, unnoted_run, run_pure]
        cases ((judgeIn crew.setting.bench toolchains job directory).run between).1 with
        | error fault => exact ⟨more, rfl⟩
        | ok result => exact ⟨more, rfl⟩

/-- **A job whose source compiles** is answered with what its cases resolve to, and the runner is started as
they are resolved. -/
theorem answer_of_compiled {job : Job} {directory : String} {resolution : Resolution} {world made compiled : W}
    {calls after : List RunnerCall} {resolved_ : W} (valid : job.validate = .ok ())
    (makes : (crew.setting.bench.makeDirectory job.user).run world = (.ok directory, made))
    (compiles : (crew.setting.bench.compile (toolchains.get job.language) directory job.source).run made =
      (.ok (.success artifact), compiled))
    (resolves : (crew.noted.resolve artifact (casesOf job) (Nanos.ofMilliseconds job.timeLimit.toInt.toNat)
      job.memoryLimit.toInt.toNat).run (compiled, calls) = (resolution, resolved_, after)) :
    ∃ last, (answer crew.noted toolchains job).run (world, calls) = (resolved job resolution, last, after) := by
  have makeDirectory : crew.noted.makeDirectory job.user =
      unnoted (crew.setting.bench.makeDirectory job.user) := rfl
  have compile : crew.noted.compile (toolchains.get job.language) directory job.source =
      unnoted (crew.setting.bench.compile (toolchains.get job.language) directory job.source) := rfl
  have removeDirectory : crew.noted.removeDirectory directory =
      unnoted (crew.setting.bench.removeDirectory directory) := rfl
  simp only [answer, valid, judge, judgeIn, run_bind, makeDirectory, compile, removeDirectory, unnoted_run,
    makes, compiles, resolves, run_pure]
  exact ⟨_, rfl⟩

end

/-- **What a host does on its own clock, a crew does**: all cases are started, and race as their times say. -/
theorem exists_crew (host : Host W) (root : String) (compileTime : Nanos) :
    ∃ crew : Crew W, crew.host = host ∧ ∀ toolchains job,
      answer (.ofHost host root compileTime) toolchains job = answer crew.setting.bench toolchains job := by
  obtain ⟨setting, same, answers⟩ := exists_setting host root compileTime
  have starts (cases : Nat) (race : Race cases) :
      ∃ started : StartedRace cases, started.race.answer = race.answer := by
    obtain ⟨started, same, -⟩ := Resolver.exists_startedRace race
    exact ⟨started, same⟩
  choose start answer_start using starts
  let crew : Crew W :=
    { host := setting.host, root := setting.root, compileTime := setting.compileTime
      race := fun artifact cases budget memoryLimit =>
        start cases.length <$> setting.race artifact cases budget memoryLimit }
  have resolve : crew.setting.bench.resolve = setting.bench.resolve := by
    funext artifact cases budget memoryLimit world
    by_cases none_ : counted cases.length = 0
    · simp only [Setting.bench, Setting.over, none_, ↓reduceIte]
    · simp only [Setting.bench, Setting.over, none_, ↓reduceIte]
      exact Prod.ext (answer_start _ _) rfl
  have bench : crew.setting.bench = setting.bench := by
    show { setting.bench with resolve := crew.setting.bench.resolve } = _
    rw [resolve]
  refine ⟨crew, same, fun toolchains job => ?_⟩
  rw [bench]
  exact answers toolchains job

end CodeJudge.Worker
