import CodeJudge.Proofs.Actions
import CodeJudge.Proofs.Resolver.Ending
import CodeJudge.Proofs.Sandbox.Compile
import CodeJudge.Worker.Bench

/-!
# What a worker answers

Judging a job is a course of four acts at most: a directory is made, the source is compiled in it, the
cases race, and the directory is removed. This module follows the course through every way in which an
act can come out, on every host and for every race that its cases may run.

**The law** (`answer_contract`): whatever the fields of a job, what is done for it goes on exactly as long
as the acts come out well, and how they come out decides the answer (`Course`). The answer is consistent in
itself, and tells how far the course has come (`Contract`): nothing is done for a malformed job, no case is
run of a program that was not compiled, and the directory is removed at the end.

**What it does not establish.** That an act ends: a host gives its results at once.
-/

namespace CodeJudge

/-! ## Jobs -/

/-- The shape of a job is right when it has a case, as many inputs and expected outputs as cases, and
limits above zero. -/
theorem Job.validate_eq_ok_iff {job : Job} :
    job.validate = .ok () ↔
      1 ≤ job.total.toInt ∧ job.inputs.length = job.total.toInt.toNat ∧
        job.expected.length = job.total.toInt.toNat ∧ 0 < job.timeLimit.toInt ∧
        0 < job.memoryLimit.toInt := by
  simp only [Job.validate]
  split
  · simp only [reduceCtorEq, false_iff]
    omega
  · split
    · simp only [reduceCtorEq, false_iff]
      omega
    · split
      · simp only [reduceCtorEq, false_iff]
        omega
      · simp only [true_iff]
        omega

namespace Worker

open Sandbox (Artifact Case Compilation Host SourceFault Toolchain Toolchains)
open Resolver (Race Resolution Safe Step counted passers withoutCases)

theorem length_casesOf (job : Job) :
    (casesOf job).length = min job.inputs.length job.expected.length := by
  rw [casesOf, List.length_mapIdx, List.length_zip]

/-- A job of the right shape has as many cases as it says, at least one and no more than a word of 32
bits with a sign can count. -/
theorem length_casesOf_valid {job : Job} (valid : job.validate = .ok ()) :
    ((casesOf job).length : Int) = job.total.toInt ∧ 1 ≤ (casesOf job).length ∧
      (casesOf job).length < 2 ^ 31 := by
  obtain ⟨some_, inputs, expected, -, -⟩ := Job.validate_eq_ok_iff.mp valid
  have bound := job.total.toInt_lt
  rw [length_casesOf, inputs, expected, Nat.min_self]
  omega

theorem counted_casesOf {job : Job} (valid : job.validate = .ok ()) :
    counted (casesOf job).length ≠ 0 := by
  obtain ⟨-, some_, few⟩ := length_casesOf_valid valid
  rw [counted]
  omega

/-- A measurement is capped, and never turns negative. -/
theorem toInt_capped (n : Nat) : (capped n).toInt = (min n greatest : Nat) := by
  have small : min n greatest < 2 ^ 31 := by
    simp only [greatest]
    omega
  rw [capped, Int32.toInt_ofNat_of_lt small]

/-! ## Acts -/

/-- What a worker does around its decisions, and what comes of it. -/
inductive Act
  | make (user : Int64) (made : Except FileFault String)
  | compile (toolchain : Toolchain) (directory source : String)
      (came : Except SourceFault Compilation)
  | race (artifact : Artifact) (cases : List Case) (budget : Nanos) (memoryLimit : Nat)
      (race : Race cases.length)
  | remove (directory : String)

/-- What a worker has around its decisions: a host, and however the cases of a job come to race. -/
structure Setting (W : Type) where
  host : Host W
  root : String
  compileTime : Nanos
  race : Artifact → (cases : List Case) → (budget : Nanos) → (memoryLimit : Nat) →
    StateM W (Race cases.length)

/-- The bench of a setting, where each act is done as `doing` says. -/
def Setting.over {W V : Type} (setting : Setting W)
    (doing : {α : Type} → (α → Act) → StateM W α → StateM V α) : Bench V where
  makeDirectory user :=
    doing (.make user) (setting.host.makeDirectory setting.root (directoryStart user))
  compile toolchain directory source :=
    doing (.compile toolchain directory source)
      (Sandbox.compile setting.host toolchain directory source setting.compileTime)
  resolve artifact cases budget memoryLimit :=
    if counted cases.length = 0 then return withoutCases
    else do
      let race ← doing (.race artifact cases budget memoryLimit)
        (setting.race artifact cases budget memoryLimit)
      return race.answer
  removeDirectory directory :=
    doing (fun _ => .remove directory) (setting.host.removeDirectory directory)

/-- The bench of a setting. -/
def Setting.bench {W : Type} (setting : Setting W) : Bench W := setting.over fun _ action => action

/-- The bench of a setting on which every act is noted. -/
def Setting.noted {W : Type} (setting : Setting W) : Bench (W × List Act) := setting.over noting

theorem Setting.noted_makeDirectory {W : Type} (setting : Setting W) (user : Int64) (world : W)
    (notes : List Act) :
    (setting.noted.makeDirectory user).run (world, notes) =
      (((setting.bench.makeDirectory user).run world).1,
        ((setting.bench.makeDirectory user).run world).2,
        notes ++ [.make user ((setting.bench.makeDirectory user).run world).1]) := rfl

theorem Setting.noted_removeDirectory {W : Type} (setting : Setting W) (directory : String)
    (world : W) (notes : List Act) :
    (setting.noted.removeDirectory directory).run (world, notes) =
      ((), ((setting.bench.removeDirectory directory).run world).2,
        notes ++ [.remove directory]) := rfl

/-! ## The course of a job -/

section Course

variable (toolchains : Toolchains) (job : Job)

/-- **What is done in the directory of a job**, and what it leads to. -/
inductive Judged (directory : String) : List Act → Except Fault JobResult → Prop
  | noSource {fault : SourceFault} :
      Judged directory [.compile (toolchains.get job.language) directory job.source (.error fault)]
        (.error (.noSource fault))
  | notCompiled {diagnostics : String} (shown : diagnostics ≠ "") :
      Judged directory
        [.compile (toolchains.get job.language) directory job.source (.ok (.failure diagnostics))]
        (.ok (notCompiled job diagnostics))
  | resolved {artifact : Artifact} (race : Race (casesOf job).length) :
      Judged directory
        [.compile (toolchains.get job.language) directory job.source (.ok (.success artifact)),
          .race artifact (casesOf job) (Nanos.ofMilliseconds job.timeLimit.toInt.toNat)
            job.memoryLimit.toInt.toNat race]
        (.ok (resolved job race.answer))

/-- **What is done for a job**, and its answer. -/
inductive Course : List Act → JobResult → Prop
  | refused {fault : Job.Fault} (invalid : job.validate = .error fault) :
      Course [] (job.systemError fault.message)
  | noDirectory {fault : FileFault} (valid : job.validate = .ok ()) :
      Course [.make job.user (.error fault)] (job.systemError internalError)
  | faulted {directory : String} {acts : List Act} {fault : Fault} (valid : job.validate = .ok ())
      (judged : Judged toolchains job directory acts (.error fault)) :
      Course (.make job.user (.ok directory) :: acts ++ [.remove directory])
        (job.systemError internalError)
  | answered {directory : String} {acts : List Act} {result : JobResult}
      (valid : job.validate = .ok ())
      (judged : Judged toolchains job directory acts (.ok result)) :
      Course (.make job.user (.ok directory) :: acts ++ [.remove directory]) result

end Course

section

variable {W : Type} (setting : Setting W) (toolchains : Toolchains) {job : Job}

/-- What is done in the directory of a job that has cases. -/
theorem judged_judgeIn (some_ : counted (casesOf job).length ≠ 0) (directory : String) (world : W)
    (notes : List Act) :
    ∃ came last acts,
      (judgeIn setting.noted toolchains job directory).run (world, notes) =
        (came, last, notes ++ acts) ∧
      (judgeIn setting.bench toolchains job directory).run world = (came, last) ∧
      Judged toolchains job directory acts came := by
  cases compiled : (Sandbox.compile setting.host (toolchains.get job.language) directory job.source
    setting.compileTime).run world with
  | mk came world =>
    simp only [judgeIn, Setting.noted, Setting.bench, Setting.over, run_bind, noting_run, compiled]
    rcases came with fault | artifact | diagnostics
    · exact ⟨_, _, _, rfl, rfl, .noSource⟩
    · simp only [some_, ↓reduceIte, run_bind, noting_run, run_pure, List.append_assoc]
      exact ⟨_, _, _, rfl, rfl, .resolved _⟩
    · have shown : diagnostics ≠ "" := Sandbox.compile_failure (congrArg (·.1) compiled)
      exact ⟨_, _, _, rfl, rfl, .notCompiled shown⟩

/-- **Every answer comes at the end of a course**, and noting the acts changes nothing. -/
theorem course_answer (job : Job) (world : W) :
    ∃ result last acts,
      (answer setting.noted toolchains job).run (world, []) = (result, last, acts) ∧
      (answer setting.bench toolchains job).run world = (result, last) ∧
      Course toolchains job acts result := by
  cases valid : job.validate with
  | error fault =>
    simp only [answer, valid, run_pure]
    exact ⟨_, _, _, rfl, rfl, .refused valid⟩
  | ok _ =>
    cases made : (setting.bench.makeDirectory job.user).run world with
    | mk came world =>
      cases came with
      | error fault =>
        simp only [answer, valid, judge, run_bind, setting.noted_makeDirectory, made, run_pure]
        exact ⟨_, _, _, rfl, rfl, .noDirectory valid⟩
      | ok directory =>
        obtain ⟨came, last, acts, noted, plain, judged⟩ :=
          judged_judgeIn setting toolchains (counted_casesOf valid) directory world
            ([] ++ [.make job.user (.ok directory)])
        simp only [answer, valid, judge, run_bind, setting.noted_makeDirectory, made, noted, plain,
          setting.noted_removeDirectory, run_pure]
        cases came with
        | error fault => exact ⟨_, _, _, rfl, rfl, .faulted valid judged⟩
        | ok result => exact ⟨_, _, _, rfl, rfl, .answered valid judged⟩

end

/-! ## The answer -/

/-- **An answer that is consistent in itself.** -/
structure Sound (job : Job) (result : JobResult) : Prop where
  user : result.user = job.user
  total : result.total = job.total
  passed : 0 ≤ result.passed.toInt
  accepted_iff : result.verdict = .accepted ↔ 1 ≤ job.total.toInt ∧ result.passed = job.total
  memory : 0 ≤ result.memory.toInt
  runtime : 0 ≤ result.runtime.toInt
  silent : result.verdict = .accepted ∨ result.verdict = .timeLimitExceeded → result.output = none

/-- An answer that counts and measures nothing is sound when no case is needed for its verdict. -/
theorem Sound.of_unjudged {job : Job} {result : JobResult} (user : result.user = job.user)
    (total : result.total = job.total) (passed : result.passed = 0) (memory : result.memory = 0)
    (runtime : result.runtime = 0) (accepted : result.verdict ≠ .accepted)
    (late : result.verdict ≠ .timeLimitExceeded) : Sound job result where
  user := user
  total := total
  passed := by rw [passed]; decide
  accepted_iff := by
    refine ⟨fun h => absurd h accepted, fun ⟨some_, full⟩ => ?_⟩
    rw [← full, passed] at some_
    exact absurd some_ (by decide)
  memory := by rw [memory]; decide
  runtime := by rw [runtime]; decide
  silent := by
    intro h
    rcases h with h | h
    · exact absurd h accepted
    · exact absurd h late

theorem sound_systemError (job : Job) (message : String) :
    Sound job (job.systemError message) :=
  .of_unjudged rfl rfl rfl rfl rfl nofun nofun

theorem sound_notCompiled (job : Job) (diagnostics : String) :
    Sound job (notCompiled job diagnostics) :=
  .of_unjudged rfl rfl rfl rfl rfl nofun nofun

/-- Every race gives a sound answer to a job of the right shape. -/
theorem sound_resolved {job : Job} (valid : job.validate = .ok ())
    (race : Race (casesOf job).length) : Sound job (resolved job race.answer) := by
  obtain ⟨shape, some_, few⟩ := length_casesOf_valid valid
  obtain ⟨before, -, -, -, safe⟩ := race.safe (few.trans (by decide))
  have total : Int32.ofNat race.answer.total = job.total := by
    rw [← Int32.toInt_inj, safe.total, Int32.toInt_ofNat_of_lt few, shape]
  have passed : (Int32.ofNat race.answer.passed).toInt = race.answer.passed :=
    Int32.toInt_ofNat_of_lt (Nat.lt_of_le_of_lt safe.within few)
  exact {
    user := rfl
    total := total
    passed := by
      simp only [resolved, passed]
      omega
    accepted_iff := by
      simp only [resolved, safe.accepted_iff_count, ← Int32.toInt_inj, passed]
      omega
    memory := by
      simp only [resolved, toInt_capped]
      omega
    runtime := by
      simp only [resolved, toInt_capped]
      omega
    silent := by
      intro quiet
      simp only [resolved, safe.silent quiet]
      rfl }

/-- **What an answer has to do with the acts that led to it.** -/
structure Contract (toolchains : Toolchains) (job : Job) (acts : List Act) (result : JobResult) :
    Prop extends Sound job result where
  /-- Nothing is done for a malformed job. -/
  refused : ∀ fault, job.validate = .error fault →
    acts = [] ∧ result.verdict = .systemError ∧ result.passed = 0
  noDirectory : ∀ user fault, .make user (.error fault) ∈ acts →
    result.verdict = .systemError ∧ result.passed = 0
  noSource : ∀ toolchain directory source fault,
    .compile toolchain directory source (.error fault) ∈ acts →
      result.verdict = .systemError ∧ result.passed = 0
  notCompiled : ∀ toolchain directory source diagnostics,
    .compile toolchain directory source (.ok (.failure diagnostics)) ∈ acts →
      result.verdict = .compileError ∧ result.passed = 0 ∧ result.output = some diagnostics ∧
        diagnostics ≠ ""
  /-- The cases of the job are run of a program that was compiled, and the answer is that of their
  race. -/
  raced : ∀ artifact cases budget memoryLimit race,
    .race artifact cases budget memoryLimit race ∈ acts →
      (∃ directory, .compile (toolchains.get job.language) directory job.source
        (.ok (.success artifact)) ∈ acts) ∧
      cases = casesOf job ∧ result.verdict = race.answer.verdict ∧
      result.memory.toInt = (min race.answer.memory greatest : Nat) ∧
      result.runtime.toInt = (min race.answer.runtime greatest : Nat)
  /-- Nothing is accepted but what has passed every case. -/
  accepted : result.verdict = .accepted →
    ∃ artifact cases budget memoryLimit race, .race artifact cases budget memoryLimit race ∈ acts ∧
      (cases.length : Int) = job.total.toInt ∧
      ∀ index < cases.length, ∃ report,
        Step.finish index (.ok report) ∈ race.steps ∧ report.outcome = .pass
  /-- A directory that was made is removed in the end. -/
  removed : ∀ user directory, .make user (.ok directory) ∈ acts →
    acts.getLast? = some (.remove directory)

/-- In an accepted race every case has reported a pass. -/
theorem passes_of_accepted {cases : Nat} (race : Race cases) (few : cases < 2 ^ 32)
    (accepted : race.answer.verdict = .accepted) :
    ∀ index < cases, ∃ report,
      Step.finish index (.ok report) ∈ race.steps ∧ report.outcome = .pass := by
  intro index known
  obtain ⟨before, after, steps, -, safe⟩ := race.safe few
  have all : index ∈ passers before := by
    rw [safe.accepted_iff_all.mp accepted]
    exact Finset.mem_range.mpr known
  obtain ⟨report, finished, passed⟩ := Resolver.mem_passers.mp all
  refine ⟨report, ?_, passed⟩
  rw [steps]
  exact List.mem_append_left _ finished

/-- Whether an act tells something of the program: that it was not compiled, or how its cases raced. -/
def Act.judges : Act → Bool
  | .compile _ _ _ (.ok (.failure _)) => true
  | .race .. => true
  | _ => false

/-- A system error is a right answer after acts that tell nothing of the program. -/
theorem Contract.of_systemError {toolchains : Toolchains} {job : Job} {acts : List Act}
    {message : String} (unjudged : ∀ act ∈ acts, act.judges = false)
    (refused : ∀ fault, job.validate = .error fault → acts = [])
    (removed : ∀ user directory, .make user (.ok directory) ∈ acts →
      acts.getLast? = some (.remove directory)) :
    Contract toolchains job acts (job.systemError message) where
  toSound := sound_systemError ..
  refused := fun fault invalid => ⟨refused fault invalid, rfl, rfl⟩
  noDirectory := fun _ _ _ => ⟨rfl, rfl⟩
  noSource := fun _ _ _ _ _ => ⟨rfl, rfl⟩
  notCompiled := fun _ _ _ _ mem => absurd (unjudged _ mem) nofun
  raced := fun _ _ _ _ _ mem => absurd (unjudged _ mem) nofun
  accepted := nofun
  removed := removed

/-- The course of a job fulfils the contract, however it goes. -/
theorem Course.contract {toolchains : Toolchains} {job : Job} {acts : List Act} {result : JobResult}
    (course : Course toolchains job acts result) : Contract toolchains job acts result := by
  cases course with
  | refused invalid => exact .of_systemError (List.forall_mem_nil _) (fun _ _ => rfl) (by simp)
  | noDirectory valid =>
    exact .of_systemError (List.forall_mem_singleton.mpr rfl) (by simp [valid]) (by simp)
  | faulted valid judged =>
    cases judged with
    | noSource =>
      exact .of_systemError (by simp [Act.judges]) (by simp [valid]) (by simp)
  | answered valid judged =>
    cases judged with
    | notCompiled shown =>
      exact {
        toSound := sound_notCompiled ..
        refused := by simp [valid]
        noDirectory := by simp
        noSource := by simp
        notCompiled := by
          intro _ _ _ _ mem
          simp only [List.cons_append, List.nil_append, List.mem_cons, reduceCtorEq,
            Act.compile.injEq, Except.ok.injEq, Compilation.failure.injEq, List.not_mem_nil,
            or_false, false_or] at mem
          obtain ⟨-, -, -, rfl⟩ := mem
          exact ⟨rfl, rfl, rfl, shown⟩
        raced := by simp
        accepted := nofun
        removed := by simp }
    | resolved race =>
      obtain ⟨shape, -, few⟩ := length_casesOf_valid valid
      exact {
        toSound := sound_resolved valid race
        refused := by simp [valid]
        noDirectory := by simp
        noSource := by simp
        notCompiled := by simp
        raced := by
          intro _ _ _ _ _ mem
          simp only [List.cons_append, List.nil_append, List.mem_cons, reduceCtorEq,
            Act.race.injEq, List.not_mem_nil, or_false, false_or] at mem
          obtain ⟨rfl, rfl, -, -, same⟩ := mem
          obtain rfl := eq_of_heq same
          exact ⟨⟨_, List.mem_cons_of_mem _ List.mem_cons_self⟩, rfl, rfl, toInt_capped _,
            toInt_capped _⟩
        accepted := fun accepted =>
          ⟨_, _, _, _, race, List.mem_cons_of_mem _ (List.mem_cons_of_mem _ List.mem_cons_self),
            shape, passes_of_accepted race (few.trans (by decide)) accepted⟩
        removed := by simp }

/-- **The contract of a worker.** On every host, for every race that cases may run, every table of
toolchains and every job whatever its fields, there is an answer, and noting what is done on the way to it
changes neither the answer nor the world. What is done is what the job and the host call for, and decides the
answer: a malformed job is refused; every other one has a directory made for it, has its source compiled where
the directory was made, has its cases race where the source was compiled, and is answered with the fault, the
diagnostics or the race that this has ended with. The answer fulfils the contract. -/
theorem answer_contract {W : Type} (setting : Setting W) (toolchains : Toolchains) (job : Job)
    (world : W) :
    ∃ result last acts,
      (answer setting.noted toolchains job).run (world, []) = (result, last, acts) ∧
      (answer setting.bench toolchains job).run world = (result, last) ∧
      Course toolchains job acts result ∧ Contract toolchains job acts result := by
  obtain ⟨result, last, acts, noted, plain, course⟩ := course_answer setting toolchains job world
  exact ⟨result, last, acts, noted, plain, course, course.contract⟩

/-! ## The bench of a host -/

/-- There is an entry in the script for every case that is run. -/
theorem length_runCases {W : Type} (host : Host W) (artifact : Artifact) (budget : Nanos)
    (memoryLimit : Nat) (cases : List Case) (world : W) :
    ((runCases host artifact budget memoryLimit cases).run world).1.length = cases.length := by
  induction cases generalizing world with
  | nil => rfl
  | cons case rest ih =>
    simp only [runCases, run_bind, run_pure, List.length_cons, ih]

/-- **What a host does on its own clock, it does in a setting**: the cases race as their times say. -/
theorem exists_setting {W : Type} (host : Host W) (root : String) (compileTime : Nanos) :
    ∃ setting : Setting W, setting.host = host ∧ ∀ toolchains job,
      answer (.ofHost host root compileTime) toolchains job =
        answer setting.bench toolchains job := by
  have races : ∀ (cases : Nat) (script : Resolver.Script) (budget : Nanos), script.length = cases →
      ∃ race : Race cases,
        counted cases ≠ 0 → race.answer = (Resolver.timed script budget).2 := by
    rintro _ script budget rfl
    exact Resolver.exists_race script budget
  choose race answers using races
  let setting : Setting W :=
    { host, root, compileTime
      race := fun artifact cases budget memoryLimit world =>
        let ran := (runCases host artifact budget memoryLimit cases).run world
        (race cases.length ran.1 budget (length_runCases ..), ran.2) }
  refine ⟨setting, rfl, fun toolchains job => ?_⟩
  cases valid : job.validate with
  | error fault => simp only [answer, valid]
  | ok _ =>
    have counts := counted_casesOf valid
    have same (artifact : Artifact) (budget : Nanos) (memoryLimit : Nat) :
        (Bench.ofHost host root compileTime).resolve artifact (casesOf job) budget memoryLimit =
          setting.bench.resolve artifact (casesOf job) budget memoryLimit := by
      funext world
      simp only [Setting.bench, Setting.over, counts, ↓reduceIte]
      exact Prod.ext (answers _ _ _ (length_runCases ..) counts).symm rfl
    have judges : judgeIn (.ofHost host root compileTime) toolchains job =
        judgeIn setting.bench toolchains job := by
      funext directory
      simp only [judgeIn, same]
      rfl
    simp only [answer, judge, judges]
    rfl

end Worker

end CodeJudge
