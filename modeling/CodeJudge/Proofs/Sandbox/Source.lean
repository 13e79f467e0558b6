import CodeJudge.Proofs.Sandbox.Workplace
import CodeJudge.Shell.Host
import CodeJudge.Worker.Bench
import Mathlib.Data.List.Basic

/-!
# The source that a job runs

A job writes its source once and starts programs over it many times, on a machine that it shares with other
jobs. Here the machine is one on which programs do nothing to files but print (`quietHost`), and others may do
something to the files before every operation and while a program runs.

**The law** (`source_stays`). If others do only what other jobs do in directories of their own, and what the
other cases of the job do, the source stands in the directory of the job as it was submitted, when it has been
compiled and whenever a program is started.

The law needs a proper name for the source. The configuration may give others, and then the source is gone
when the program starts, or stands outside the directory in the way of other jobs (`source_lost`).

**What it does not establish.** What becomes of the source when programs write files themselves.
-/

namespace CodeJudge.Sandbox

/-! ## What compiling and running keep -/

/-- **What the operations of a host keep** that compiling and running need, after the source is written:
programs are started only with outputs that are captured. -/
structure Host.Keeping {W : Type} (host : Host W) (captured : String → Prop) (Holds : W → Prop) : Prop where
  run : ∀ {launch : Launch} {world : W}, captured launch.output → Holds world →
    Holds ((host.run launch).run world).2
  read : ∀ (path : String) {world : W}, Holds world → Holds ((host.read path).run world).2
  resident : ∀ {world : W}, Holds world → Holds (host.resident.run world).2

namespace Host.Keeping

variable {W : Type} {host : Host W} {captured : String → Prop} {Holds : W → Prop} {world : W}
variable (keeping : host.Keeping captured Holds)
include keeping

theorem head (path : String) (limit : Nat) (holds : Holds world) :
    Holds ((host.head path limit).run world).2 := by
  have after := keeping.read path holds
  simp only [Host.head, run_bind]
  split <;> exact after

theorem runCompiler {directory : String} (prints : captured (Path.join directory diagnosticsName))
    (command : List String) (timeout : Nanos) (holds : Holds world) :
    Holds ((Sandbox.runCompiler host command directory timeout).run world).2 := by
  cases command with
  | nil => exact holds
  | cons program arguments =>
    simp only [Sandbox.runCompiler, run_bind]
    split <;> exact keeping.run prints holds

theorem execute {artifact : Artifact} {case : Case} (prints : captured (outputPath artifact.directory case.index))
    (memoryLimit : Nat) (limit : Option Nanos) (holds : Holds world) :
    Holds ((Sandbox.execute host artifact case memoryLimit limit).run world).2 := by
  have ran {world : W} (holds : Holds world) : Holds ((runProgram host artifact case.input
      (outputPath artifact.directory case.index) limit).run world).2 := by
    rw [runProgram]
    split
    · exact holds
    · simp only [run_bind]
      split <;> exact keeping.run prints holds
  have after := ran (keeping.resident holds)
  simp only [Sandbox.execute, run_bind]
  split
  · exact after
  · simp only [run_bind, run_pure]
    exact keeping.head _ _ (keeping.resident after)

/-- **What is kept by the operations, and holds when the source is written, holds when it is compiled.** -/
theorem compile {toolchain : Toolchain} {directory source : String} {timeout : Nanos} {between : W}
    {compilation : Compilation} (prints : captured (Path.join directory diagnosticsName))
    (starts : ((host.write (Path.join directory toolchain.fileName) (Utf8.encode source).toByteArray).run
      world).1 = .ok () →
      Holds ((host.write (Path.join directory toolchain.fileName) (Utf8.encode source).toByteArray).run world).2)
    (compiled : (Sandbox.compile host toolchain directory source timeout).run world =
      (.ok compilation, between)) : Holds between := by
  simp only [Sandbox.compile, run_bind] at compiled
  split at compiled
  · cases compiled
  · rename_i written
    have holds := starts written
    split at compiled
    · cases compiled
      exact holds
    · rename_i template _
      simp only [run_bind] at compiled
      have ran := keeping.runCompiler prints
        ((placeholders directory toolchain.fileName).command template) timeout holds
      have read := keeping.head (Path.join directory diagnosticsName) Cut.limit ran
      split at compiled <;> cases compiled <;> exact read

/-- **What is kept by the operations is kept while the cases of a job are run.** -/
theorem runCases {artifact : Artifact} (prints : ∀ index, captured (outputPath artifact.directory index))
    (budget : Nanos) (memoryLimit : Nat) (cases : List Case) (holds : Holds world) :
    Holds ((Worker.runCases host artifact budget memoryLimit cases).run world).2 := by
  induction cases generalizing world with
  | nil => exact holds
  | cons case rest ih =>
    simp only [Worker.runCases, run_bind, run_pure]
    exact ih (keeping.execute (prints case.index) memoryLimit (some budget) holds)

end Host.Keeping

/-- What comes of a compilation is run in the directory where it was done. -/
theorem directory_of_compile {W : Type} {host : Host W} {toolchain : Toolchain} {directory source : String}
    {timeout : Nanos} {world : W} {artifact : Artifact}
    (compiled : ((compile host toolchain directory source timeout).run world).1 = .ok (.success artifact)) :
    artifact.directory = directory := by
  simp only [compile, run_bind] at compiled
  split at compiled
  · cases compiled
  · split at compiled
    · cases compiled
      rfl
    · simp only [run_bind] at compiled
      split at compiled <;> cases compiled
      rfl

/-! ## What others do -/

/-- Something that is done to the files. -/
inductive Deed
  | write (path : String) (bytes : ByteArray)
  | makeDirectory (path : String)
  | removeDirectory (path : String)

/-- The files after something was done, or could not be done. -/
def Deed.perform (files : FileTree) : Deed → FileTree
  | write path bytes => (files.write [] path bytes).toOption.getD files
  | makeDirectory path => (files.makeDirectory [] path).toOption.getD files
  | removeDirectory path => Shell.removeBelow files path

/-- **What others do beside a job.** -/
inductive Workplace.Beside (workplace : Workplace) : Deed → Prop
  /-- Another job writes in its own directory. -/
  | elsewhere {other : Workplace} {path : String} (proper : ProperName other.fileName)
      (apart : Path.place other.directory ≠ Path.place workplace.directory) (writes : other.Writes path)
      (bytes : ByteArray) : Beside workplace (.write path bytes)
  /-- Another case of the job prints. -/
  | captured {path : String} (captures : workplace.Captures path) (bytes : ByteArray) :
      Beside workplace (.write path bytes)
  | makeDirectory (path : String) : Beside workplace (.makeDirectory path)
  /-- A directory is removed in which the source does not stand. -/
  | removeDirectory {path : String}
      (outside : (Path.place path).isPrefixOf workplace.sourcePlace = false) :
      Beside workplace (.removeDirectory path)

variable {workplace : Workplace} {files : FileTree}

/-- **What is done beside a job leaves the source of the job as it is.** -/
theorem Workplace.Beside.perform {deed : Deed} (beside : workplace.Beside deed)
    (proper : ProperName workplace.fileName) (sound : files.Sound) :
    (deed.perform files).Sound ∧ files.Ages (deed.perform files) ∧
      (deed.perform files).bytesAt? workplace.sourcePlace = files.bytesAt? workplace.sourcePlace := by
  have write {path : String} (bytes : ByteArray) (different : Path.place path ≠ workplace.sourcePlace) :
      ((Deed.write path bytes).perform files).Sound ∧ files.Ages ((Deed.write path bytes).perform files) ∧
        ((Deed.write path bytes).perform files).bytesAt? workplace.sourcePlace =
          files.bytesAt? workplace.sourcePlace := by
    rw [Deed.perform]
    cases written : files.write [] path bytes with
    | error fault => exact ⟨sound, .refl files, rfl⟩
    | ok next =>
      obtain ⟨touched, -⟩ := sound.write written
      exact ⟨touched.sound, touched.ages, touched.elsewhere different.symm⟩
  cases beside with
  | elsewhere proper' apart writes bytes =>
    exact write bytes (place_source proper ▸ Writes.place_ne .source proper writes proper' apart)
  | captured captures bytes => exact write bytes (captures.place_ne proper)
  | makeDirectory path =>
    rw [Deed.perform]
    cases made : files.makeDirectory [] path with
    | error fault => exact ⟨sound, .refl files, rfl⟩
    | ok next =>
      obtain ⟨kept, ages, same⟩ := sound.makeDirectory made
      exact ⟨kept, ages, same _⟩
  | @removeDirectory path outside =>
    rw [Deed.perform, Shell.removeBelow]
    cases found : files.find [] path with
    | error fault => exact ⟨sound, .refl files, rfl⟩
    | ok came =>
      obtain ⟨target, node⟩ := came
      cases FileTree.find_place found
      obtain ⟨kept, ages, same⟩ := sound.removeAll (Path.place path)
      exact ⟨kept, ages, same _ outside⟩

/-! ## A machine on which programs only print -/

/-- The files of a machine, and what is to come and has been on it. -/
structure Scene where
  files : FileTree
  /-- What others do before each coming operation, and while a program runs. -/
  coming : List (List Deed)
  /-- Every program that was started, and the files that it found. -/
  starts : List (Launch × FileTree) := []
  /-- The paths that were written. -/
  written : List String := []

/-- The scene after others have done something. -/
def Scene.disturbed (scene : Scene) : Scene :=
  match scene.coming with
  | [] => scene
  | deeds :: rest => { scene with files := deeds.foldl Deed.perform scene.files, coming := rest }

/-- How programs behave that only print: how each comes out, and what it has printed. Also how much memory
is found to be taken. -/
structure Conduct where
  run : Launch → Scene → Run × ByteArray
  resident : Scene → Option Int

/-- **The host on which programs only print.** Everything else is done as on the host of files. -/
def quietHost (conduct : Conduct) : Host Scene where
  write path bytes scene :=
    let scene := scene.disturbed
    let (result, files) := Shell.host.write path bytes scene.files
    (result, { scene with files, written := scene.written ++ [path] })
  read path scene :=
    let scene := scene.disturbed
    ((Shell.host.read path scene.files).1, scene)
  run launch scene :=
    let scene := scene.disturbed
    match scene.files.openForWriting [] launch.output true with
    | .error fault => (.noOutput fault, scene)
    | .ok (files, number) =>
      let scene := { scene with
        files
        starts := scene.starts ++ [(launch, files)]
        written := scene.written ++ [launch.output] }
      let (ended, bytes) := conduct.run launch scene
      let scene := scene.disturbed
      let content := (scene.files.content? number).getD ⟨.empty, false⟩
      (ended, { scene with files := scene.files.setContent number { content with bytes } })
  makeDirectory root start scene :=
    let scene := scene.disturbed
    let (result, files) := Shell.host.makeDirectory root start scene.files
    (result, { scene with files })
  removeDirectory path scene :=
    let scene := scene.disturbed
    ((), { scene with files := Shell.removeBelow scene.files path })
  resident scene := (conduct.resident scene, scene.disturbed)

/-- **A scene in which others do only what is beside a job.** -/
structure Scene.Calm (scene : Scene) (workplace : Workplace) : Prop where
  sound : scene.files.Sound
  beside : ∀ deeds ∈ scene.coming, ∀ deed ∈ deeds, workplace.Beside deed

/-- **A calm scene in which the source of a job is there**, and was so whenever a program was started. -/
structure Scene.Keeps (scene : Scene) (workplace : Workplace) (source : ByteArray) : Prop
    extends scene.Calm workplace where
  kept : scene.files.bytesAt? workplace.sourcePlace = some source
  starts : ∀ start ∈ scene.starts, start.2.bytesAt? workplace.sourcePlace = some source

section

variable {scene : Scene} {source : ByteArray}

@[simp] theorem Scene.starts_disturbed (scene : Scene) : scene.disturbed.starts = scene.starts := by
  rw [disturbed]
  split <;> rfl

@[simp] theorem Scene.written_disturbed (scene : Scene) : scene.disturbed.written = scene.written := by
  rw [disturbed]
  split <;> rfl

/-- A calm scene stays calm, and the source of the job as it is. -/
theorem Scene.Calm.disturbed (calm : scene.Calm workplace) (proper : ProperName workplace.fileName) :
    scene.disturbed.Calm workplace ∧ scene.files.Ages scene.disturbed.files ∧
      scene.disturbed.files.bytesAt? workplace.sourcePlace = scene.files.bytesAt? workplace.sourcePlace := by
  have many {deeds : List Deed} (beside : ∀ deed ∈ deeds, workplace.Beside deed) {files : FileTree}
      (sound : files.Sound) : (deeds.foldl Deed.perform files).Sound ∧
        files.Ages (deeds.foldl Deed.perform files) ∧
          (deeds.foldl Deed.perform files).bytesAt? workplace.sourcePlace =
            files.bytesAt? workplace.sourcePlace := by
    induction deeds generalizing files with
    | nil => exact ⟨sound, .refl files, rfl⟩
    | cons deed rest ih =>
      obtain ⟨first, others⟩ := List.forall_mem_cons.mp beside
      obtain ⟨kept, ages, same⟩ := first.perform proper sound
      obtain ⟨kept', ages', same'⟩ := ih others kept
      exact ⟨kept', ages.trans ages', same'.trans same⟩
  rw [Scene.disturbed]
  split
  · exact ⟨calm, .refl _, rfl⟩
  · rename_i deeds rest coming
    have beside := calm.beside
    rw [coming] at beside
    obtain ⟨first, others⟩ := List.forall_mem_cons.mp beside
    obtain ⟨kept, ages, same⟩ := many first calm.sound
    exact ⟨⟨kept, others⟩, ages, same⟩

theorem Scene.Keeps.disturbed (keeps : scene.Keeps workplace source)
    (proper : ProperName workplace.fileName) : scene.disturbed.Keeps workplace source := by
  obtain ⟨calm, -, same⟩ := keeps.toCalm.disturbed proper
  exact ⟨calm, same.trans keeps.kept, by rw [starts_disturbed]; exact keeps.starts⟩

/-! ## What the operations of the host keep -/

variable (conduct : Conduct)

/-- **A source that is written is there.** -/
theorem Scene.Calm.write (calm : scene.Calm workplace) (proper : ProperName workplace.fileName)
    (starts : scene.starts = [])
    (written : (((quietHost conduct).write (Path.join workplace.directory workplace.fileName) source).run
      scene).1 = .ok ()) :
    Keeps (((quietHost conduct).write (Path.join workplace.directory workplace.fileName) source).run scene).2
      workplace source := by
  obtain ⟨calm', -, -⟩ := calm.disturbed proper
  cases done : scene.disturbed.files.write [] (Path.join workplace.directory workplace.fileName) source with
  | error fault =>
    have came : (((quietHost conduct).write (Path.join workplace.directory workplace.fileName) source).run
        scene).1 = .error fault := by
      show ((quietHost conduct).write _ source scene).1 = _
      simp only [quietHost, Shell.host, done]
    rw [came] at written
    cases written
  | ok next =>
    obtain ⟨touched, bytes⟩ := calm'.sound.write done
    have came : (((quietHost conduct).write (Path.join workplace.directory workplace.fileName) source).run
        scene).2 = { scene.disturbed with
          files := next
          written := scene.disturbed.written ++ [Path.join workplace.directory workplace.fileName] } := by
      show ((quietHost conduct).write _ source scene).2 = _
      simp only [quietHost, Shell.host, done]
    rw [came]
    refine ⟨⟨touched.sound, calm'.beside⟩, Workplace.place_source proper ▸ bytes, ?_⟩
    show ∀ start ∈ scene.disturbed.starts, _
    rw [starts_disturbed, starts]
    exact nofun

/-- **A program that prints elsewhere leaves the source as it is**, and finds it so. -/
theorem Scene.Keeps.run (keeps : scene.Keeps workplace source) (proper : ProperName workplace.fileName)
    {launch : Launch} (elsewhere : Path.place launch.output ≠ workplace.sourcePlace) :
    Keeps (((quietHost conduct).run launch).run scene).2 workplace source := by
  have before := keeps.disturbed proper
  cases opened : scene.disturbed.files.openForWriting [] launch.output true with
  | error fault =>
    have came : (((quietHost conduct).run launch).run scene).2 = scene.disturbed := by
      show ((quietHost conduct).run launch scene).2 = _
      simp only [quietHost, opened]
    rw [came]
    exact before
  | ok result =>
    obtain ⟨files, number⟩ := result
    obtain ⟨touched, output, -⟩ := before.sound.openForWriting opened
    have kept : files.bytesAt? workplace.sourcePlace = some source :=
      (touched.elsewhere elsewhere.symm).trans before.kept
    let started : Scene := { scene.disturbed with
      files
      starts := scene.disturbed.starts ++ [(launch, files)]
      written := scene.disturbed.written ++ [launch.output] }
    have keepsStarted : started.Keeps workplace source := by
      refine ⟨⟨touched.sound, before.beside⟩, kept, fun start mem => ?_⟩
      rcases List.mem_append.mp mem with earlier | own
      · exact before.starts start earlier
      · cases List.mem_singleton.mp own
        exact kept
    have running := keepsStarted.disturbed proper
    obtain ⟨-, ages, -⟩ := keepsStarted.toCalm.disturbed proper
    have came : (((quietHost conduct).run launch).run scene).2 = { started.disturbed with
        files := started.disturbed.files.setContent number
          { (started.disturbed.files.content? number).getD ⟨.empty, false⟩ with
            bytes := (conduct.run launch started).2 } } := by
      show ((quietHost conduct).run launch scene).2 = _
      simp only [quietHost, opened]
      rfl
    rw [came]
    refine ⟨⟨running.sound.setContent _ _, running.beside⟩, ?_, running.starts⟩
    -- the program prints into the file that was opened for it, which no name has come to since
    have foreign : started.disturbed.files.node? workplace.sourcePlace ≠ some (.file number) := by
      intro file
      rcases ages.names file with file | new
      · exact elsewhere (touched.sound.single output file)
      · exact absurd (touched.sound.numbered output) (Nat.not_lt.mpr new)
    rw [FileTree.bytesAt?_setContent, if_neg foreign]
    exact running.kept

theorem keeping_source (proper : ProperName workplace.fileName) :
    (quietHost conduct).Keeping workplace.Captures (·.Keeps workplace source) where
  run captures keeps := keeps.run conduct proper (captures.place_ne proper)
  read _ _ keeps := keeps.disturbed proper
  resident keeps := keeps.disturbed proper

/-- Every path that is written is noted, and is one that the job writes. -/
theorem keeping_written : (quietHost conduct).Keeping workplace.Captures
    fun scene => ∀ path ∈ scene.written, workplace.Writes path where
  read _ world written := by
    show ∀ path ∈ world.disturbed.written, _
    rwa [Scene.written_disturbed]
  resident {world} written := by
    show ∀ path ∈ world.disturbed.written, _
    rwa [Scene.written_disturbed]
  run {launch world} captures written := by
    show ∀ path ∈ ((quietHost conduct).run launch world).2.written, _
    simp only [quietHost]
    split
    · rwa [Scene.written_disturbed]
    · simp only [Scene.written_disturbed]
      intro path mem
      rcases List.mem_append.mp mem with mem | mem
      · exact written path mem
      · cases List.mem_singleton.mp mem
        exact .captured captures

end

/-- A scene before a job is compiled. -/
def Scene.opening (files : FileTree) (coming : List (List Deed)) : Scene := { files, coming }

/-- **The source of a job stays in its directory as it was submitted.** Whatever the configuration says, if it
gives proper names to sources; whatever the compiler and the judged program print and however they end; and
whatever others do beside the job: once the source has been compiled, it stands in the directory under its
name, and the compiler and every case were started with it. Every path that the job writes leads into its
directory, and none to where a job with another directory writes. -/
theorem source_stays {entries : List LanguageEntry} {toolchains : Toolchains}
    (accepted : Toolchains.ofConfig entries = .ok toolchains)
    (proper : ∀ entry ∈ entries, ProperName entry.fileName) (language : Language) (conduct : Conduct)
    {directory source : String} {timeout : Nanos} {files : FileTree} (sound : files.Sound)
    {coming : List (List Deed)}
    (beside : ∀ deeds ∈ coming, ∀ deed ∈ deeds,
      Workplace.Beside ⟨directory, (toolchains.get language).fileName⟩ deed)
    {artifact : Artifact} {between : Scene}
    (compiled : (compile (quietHost conduct) (toolchains.get language) directory source timeout).run
      (.opening files coming) = (.ok (.success artifact), between))
    (budget : Nanos) (memoryLimit : Nat) (cases : List Case) :
    let fileName := (toolchains.get language).fileName
    let place := Path.place directory ++ [fileName]
    let submitted := (Utf8.encode source).toByteArray
    let last := ((Worker.runCases (quietHost conduct) artifact budget memoryLimit cases).run between).2
    Path.place (Path.join directory fileName) = place ∧
      between.files.bytesAt? place = some submitted ∧
      (∀ start ∈ last.starts, start.2.bytesAt? place = some submitted) ∧
      ∀ path ∈ last.written,
        (∃ name, Path.place path = Path.place directory ++ [name]) ∧
          ∀ other : Workplace, ProperName other.fileName →
            Path.place other.directory ≠ Path.place directory →
            ∀ foreign, other.Writes foreign → Path.place foreign ≠ Path.place path := by
  intro fileName place submitted last
  have named : ProperName fileName := properName_ofConfig accepted proper language
  have calm : (Scene.opening files coming).Calm ⟨directory, fileName⟩ := ⟨sound, beside⟩
  have own : artifact.directory = directory := directory_of_compile (congrArg Prod.fst compiled)
  have prints : ∀ index, Workplace.Captures ⟨directory, fileName⟩ (outputPath artifact.directory index) := by
    rw [own]
    exact .output
  have keeps : between.Keeps ⟨directory, fileName⟩ submitted :=
    (keeping_source conduct named).compile .diagnostics
      (fun written => calm.write conduct named rfl written) compiled
  have keepsLast : last.Keeps ⟨directory, fileName⟩ submitted :=
    (keeping_source conduct named).runCases prints budget memoryLimit cases keeps
  have written : ∀ path ∈ between.written, Workplace.Writes ⟨directory, fileName⟩ path := by
    refine (keeping_written conduct).compile .diagnostics (fun _ => ?_) compiled
    show ∀ path ∈ (Scene.opening files coming).disturbed.written ++ [Path.join directory fileName], _
    rw [Scene.written_disturbed]
    intro path mem
    cases List.mem_singleton.mp mem
    exact .source
  have writtenLast : ∀ path ∈ last.written, Workplace.Writes ⟨directory, fileName⟩ path :=
    (keeping_written conduct).runCases prints budget memoryLimit cases written
  refine ⟨Path.place_join named.plain directory, keeps.kept, keepsLast.starts, fun path mem => ?_⟩
  have writes := writtenLast path mem
  exact ⟨writes.place named, fun other proper' apart foreign writes' =>
    writes.place_ne named writes' proper' apart⟩

/-- A toolchain whose source has a certain name, as the configuration gives it. -/
def scriptEntry (fileName : String) : LanguageEntry where
  language := "python"
  fileName
  compile := some ["check", inputMark]
  run := ["sh", inputMark]

/-- The directories of two jobs. -/
def twoJobs : FileTree where
  nodes := [([], .directory), (["jobs"], .directory), (["jobs", "a"], .directory), (["jobs", "b"], .directory)]

theorem twoJobs_sound : twoJobs.Sound := by
  have noFile {place : List String} {number : Nat} : twoJobs.node? place ≠ some (.file number) := by
    intro file
    obtain ⟨before, after, nodes, -⟩ := List.lookup_eq_some_iff.mp file
    have mem : (place, Node.file number) ∈ twoJobs.nodes := nodes ▸ List.mem_append_right _ List.mem_cons_self
    simp [twoJobs] at mem
  exact ⟨fun file => absurd file noFile, fun file => absurd file noFile⟩

/-- Every program prints its name, and exits well. -/
def chatty : Conduct where
  run launch _ := (.ended (.exited 0) 5, (Utf8.encode launch.program).toByteArray)
  resident _ := none

/-- Another job writes a source of the same name, another case prints, and the other directory goes. -/
def bustle : List (List Deed) :=
  [[.write "/jobs/b/main.sh" (Utf8.encode "other").toByteArray], [],
    [.write "/jobs/a/1.out" (Utf8.encode "early").toByteArray, .makeDirectory "/jobs/c"],
    [.removeDirectory "/jobs/b"]]

theorem bustle_beside : ∀ deeds ∈ bustle, ∀ deed ∈ deeds,
    Workplace.Beside ⟨"/jobs/a", "main.sh"⟩ deed := by
  have proper : ProperName "main.sh" := .of_getLast? ⟨by decide, by decide⟩ (by decide) (by decide)
  have paths : Path.join "/jobs/b" "main.sh" = "/jobs/b/main.sh" ∧ outputPath "/jobs/a" 1 = "/jobs/a/1.out" := by
    decide
  have writes : Workplace.Writes ⟨"/jobs/b", "main.sh"⟩ "/jobs/b/main.sh" := paths.1 ▸ .source
  have captures : Workplace.Captures ⟨"/jobs/a", "main.sh"⟩ "/jobs/a/1.out" := paths.2 ▸ .output 1
  simp only [bustle, List.forall_mem_cons, List.not_mem_nil, false_implies, implies_true, and_true, true_and]
  exact ⟨.elsewhere proper (by decide) writes _, ⟨.captured captures _, .makeDirectory _⟩,
    .removeDirectory (by decide)⟩

/-- The compiler and both cases are started with the source, whatever goes on around them. -/
theorem source_stays_bustle :
    let toolchain := Toolchain.ofEntry (scriptEntry "main.sh")
    let artifact : Artifact := ⟨"/jobs/a", ["sh", "/jobs/a/main.sh"]⟩
    let came := (compile (quietHost chatty) toolchain "/jobs/a" "echo" 7).run (.opening twoJobs bustle)
    let last := ((Worker.runCases (quietHost chatty) artifact 9 9 [⟨0, "", ""⟩, ⟨1, "", ""⟩]).run came.2).2
    came.1 = .ok (.success artifact) ∧
      last.starts.map (·.1.output) = ["/jobs/a/compile_stdout.txt", "/jobs/a/0.out", "/jobs/a/1.out"] ∧
      ∀ start ∈ last.starts,
        start.2.bytesAt? ["jobs", "a", "main.sh"] = some (Utf8.encode "echo").toByteArray := by
  intro toolchain artifact came last
  have success : came.1 = .ok (.success artifact) := by decide +kernel
  have starts : last.starts.map (·.1.output) =
      ["/jobs/a/compile_stdout.txt", "/jobs/a/0.out", "/jobs/a/1.out"] := by decide +kernel
  have proper : ∀ entry ∈ [scriptEntry "main.sh"], ProperName entry.fileName :=
    List.forall_mem_singleton.mpr (.of_getLast? ⟨by decide, by decide⟩ (by decide) (by decide))
  have accepted : Toolchains.ofConfig [scriptEntry "main.sh"] = .ok (.set .builtin .python toolchain) := rfl
  obtain ⟨-, -, stays, -⟩ := source_stays accepted proper .python chatty twoJobs_sound bustle_beside
    (Prod.ext success rfl) 9 9 [⟨0, "", ""⟩, ⟨1, "", ""⟩]
  exact ⟨success, starts, stays⟩

/-- The configuration may give any name. A source that is named like the output of a case is empty when the
case starts; one that is named like the diagnostics is what the compiler has printed once it is compiled; and
a name that leads out of the directory leads two jobs to the same file. -/
theorem source_lost :
    let compiled (directory fileName : String) := (compile (quietHost chatty)
      (.ofEntry (scriptEntry fileName)) directory "echo" 7).run (.opening twoJobs [])
    let success (directory fileName : String) := (compiled directory fileName).1 =
      .ok (.success ⟨directory, ["sh", Path.join directory fileName]⟩)
    let ran := (Worker.runCases (quietHost chatty) ⟨"/jobs/a", ["sh", "/jobs/a/0.out"]⟩ 9 9 [⟨0, "", ""⟩]).run
      (compiled "/jobs/a" "0.out").2
    (∀ fileName, (Toolchains.ofConfig [scriptEntry fileName]).map (·.get .python) =
        .ok (.ofEntry (scriptEntry fileName))) ∧
      (success "/jobs/a" "0.out" ∧
        (compiled "/jobs/a" "0.out").2.files.bytesAt? ["jobs", "a", "0.out"] =
          some (Utf8.encode "echo").toByteArray ∧
        ran.2.starts.map (fun start => (start.1.output, start.2.bytesAt? ["jobs", "a", "0.out"])) =
          [("/jobs/a/compile_stdout.txt", some (Utf8.encode "echo").toByteArray),
            ("/jobs/a/0.out", some .empty)]) ∧
      (success "/jobs/a" "compile_stdout.txt" ∧
        (compiled "/jobs/a" "compile_stdout.txt").2.files.bytesAt? ["jobs", "a", "compile_stdout.txt"] =
          some (Utf8.encode "check").toByteArray) ∧
      success "/jobs/a" "../main.sh" ∧ success "/jobs/b" "../main.sh" ∧
        Path.place (Path.join "/jobs/a" "../main.sh") = Path.place (Path.join "/jobs/b" "../main.sh") := by
  have parsed : Language.parse? "python" = some .python := rfl
  have accepted (fileName : String) : Toolchains.ofConfig [scriptEntry fileName] =
      .ok (.set .builtin .python (.ofEntry (scriptEntry fileName))) := by
    simp [Toolchains.ofConfig, Toolchains.override, scriptEntry, parsed]
  refine ⟨fun fileName => ?_, ?_, ?_, ?_⟩
  · rw [accepted]
    rfl
  all_goals decide +kernel

end CodeJudge.Sandbox
