import CodeJudge.Proofs.Sandbox.Compile
import CodeJudge.Proofs.Sandbox.Excerpt

/-!
# How a compilation comes out

Compiling does three things at most: it writes the source, it runs the compile command, and it reads what the
command has printed. This module notes them (`Host.noted`), follows them through every way in which each can
come out (`Compiling`), and says which of three ends they come to.

**The law** (`compilation_classified`), on every host: a fault exactly where the source cannot be written, a
success exactly where it is written and the compile command, if there is one, ends well in time, and a failure
everywhere else, with diagnostics that are never empty and never too long. Nothing is run without a source, nor
without a command.

**What it does not establish.** That a host kills what it has started when the time is over.
-/

namespace CodeJudge.Sandbox

open Process (Ending)

/-! ## What is done on a host -/

/-- Something that compiling does on a host, and what has come of it. -/
inductive Operation
  | wrote (path : String) (bytes : ByteArray) (came : Except FileFault Unit)
  | ran (launch : Launch) (run : Run)
  | read (path : String) (found : Except FileFault ByteArray)

/-- The program that is run, if one is. -/
def Operation.launched : Operation → Option Launch
  | ran launch _ => some launch
  | wrote .. | read .. => none

/-- A host on which the files that are written and read are noted, and the programs that are run. -/
def Host.noted {W : Type} (host : Host W) : Host (W × List Operation) where
  write path bytes := noting (.wrote path bytes) (host.write path bytes)
  read path := noting (.read path) (host.read path)
  run launch := noting (.ran launch) (host.run launch)
  makeDirectory root start := unnoted (host.makeDirectory root start)
  removeDirectory path := unnoted (host.removeDirectory path)
  resident := unnoted host.resident

/-- All that a file holds that was read; nothing of one that could not be. -/
def contentOf : Except FileFault ByteArray → Bytes
  | .ok content => content.data.toList
  | .error _ => []

theorem head_run_contentOf {W : Type} (host : Host W) (path : String) (limit : Nat) (world : W) :
    (host.head path limit).run world =
      ((contentOf ((host.read path).run world).1).take limit, ((host.read path).run world).2) := by
  rw [Host.head_run, Host.whole, run_bind]
  cases ((host.read path).run world).1 <;> rfl

theorem head_noted {W : Type} (host : Host W) (path : String) (limit : Nat) (world : W)
    (earlier : List Operation) :
    (host.noted.head path limit).run (world, earlier) =
      ((contentOf ((host.read path).run world).1).take limit, ((host.read path).run world).2,
        earlier ++ [.read path ((host.read path).run world).1]) :=
  head_run_contentOf host.noted path limit (world, earlier)

/-! ## The compile command -/

/-- The run of a compile command. -/
def compilerLaunch (command : List String) (directory : String) (timeout : Nanos) : Launch where
  program := command.headD ""
  arguments := command.tail
  directory := directory
  input := none
  output := Path.join directory diagnosticsName
  limit := some timeout

/-- **What comes of a compile command**, by how its run has come out, if it was run: why it has failed, or
nothing if it has not. -/
inductive Comes (timeout : Nanos) : (command : List String) → Option Run → Option CompileFailure → Prop
  | noProgram : Comes timeout [] none (some .noProgram)
  | noOutput {program : String} {arguments : List String} {fault : FileFault} :
      Comes timeout (program :: arguments) (some (.noOutput fault)) (some (.notStarted program fault))
  | notStarted {program : String} {arguments : List String} {fault : FileFault} :
      Comes timeout (program :: arguments) (some (.notStarted fault)) (some (.notStarted program fault))
  | exitedWell {program : String} {arguments : List String} {ending : Ending} {elapsed : Nanos}
      (well : ending.succeeded = true) :
      Comes timeout (program :: arguments) (some (.ended ending elapsed)) none
  | exitedBadly {program : String} {arguments : List String} {ending : Ending} {elapsed : Nanos}
      (badly : ending.succeeded = false) :
      Comes timeout (program :: arguments) (some (.ended ending elapsed)) (some (.exited ending))
  | timedOut {program : String} {arguments : List String} :
      Comes timeout (program :: arguments) (some .unfinished) (some (.timedOut timeout))

theorem runCompiler_noted {W : Type} (host : Host W) (command : List String) (directory : String)
    (timeout : Nanos) (world : W) (earlier : List Operation) :
    ∃ run : Option Run,
      (runCompiler host.noted command directory timeout).run (world, earlier) =
        (((runCompiler host command directory timeout).run world).1,
          ((runCompiler host command directory timeout).run world).2,
          earlier ++ run.toList.map (.ran (compilerLaunch command directory timeout))) ∧
      Comes timeout command run ((runCompiler host command directory timeout).run world).1 := by
  cases command with
  | nil => exact ⟨none, by rw [Option.toList_none, List.map_nil, List.append_nil]; rfl, .noProgram⟩
  | cons program arguments =>
    refine ⟨some ((host.run (compilerLaunch (program :: arguments) directory timeout)).run world).1, ?_⟩
    -- the launch is spelled out in both runs, so that what has come of it can be told apart
    simp only [runCompiler, Host.noted, run_bind, noting_run, compilerLaunch, List.headD_cons, List.tail_cons,
      Option.toList_some, List.map_cons, List.map_nil]
    generalize (host.run _).run world = came
    obtain ⟨run, after⟩ := came
    cases run with
    | noOutput fault => exact ⟨rfl, .noOutput⟩
    | notStarted fault => exact ⟨rfl, .notStarted⟩
    | ended ending elapsed =>
      cases well : ending.succeeded with
      | true => exact ⟨by simp only [well]; rfl, by simpa [run_pure, well] using .exitedWell well⟩
      | false => exact ⟨by simp only [well]; rfl, by simpa [run_pure, well] using .exitedBadly well⟩
    | unfinished => exact ⟨rfl, .timedOut⟩

/-! ## A whole compilation -/

section

variable (toolchain : Toolchain) (directory source : String) (timeout : Nanos)

/-- The writing of the source. -/
def sourceWritten (came : Except FileFault Unit) : Operation :=
  .wrote (Path.join directory toolchain.fileName) (Utf8.encode source).toByteArray came

/-- The reading of what the compiler has printed. -/
def diagnosticsRead (found : Except FileFault ByteArray) : Operation :=
  .read (Path.join directory diagnosticsName) found

/-- What a compilation that succeeds leaves to be run. -/
def artifactOf : Artifact :=
  ⟨directory, (placeholders directory toolchain.fileName).command toolchain.run⟩

/-- The compile command of a toolchain, if it has one. -/
def compileCommand : Option (List String) :=
  toolchain.compile.map (placeholders directory toolchain.fileName).command

/-- What a compilation comes to whose source is written, by why the compile command has failed, if it has, and
by what is found then of what it has printed. -/
def concludedFrom (found : Except FileFault ByteArray) : Option CompileFailure → Compilation
  | none => .success (artifactOf toolchain directory)
  | some failure => .failure (diagnosticsOf ((contentOf found).take Cut.limit) failure)

/-- All that is done where there is a compile command, which is run unless it is empty. -/
def attempted (command : List String) (run : Option Run) (found : Except FileFault ByteArray) :
    List Operation :=
  sourceWritten toolchain directory source (.ok ()) ::
    (run.toList.map (.ran (compilerLaunch command directory timeout)) ++ [diagnosticsRead directory found])

/-- **The ways that a compilation takes**: what it does, and what it comes to. -/
inductive Compiling : List Operation → Except SourceFault Compilation → Prop
  | unwritten (fault : FileFault) :
      Compiling [sourceWritten toolchain directory source (.error fault)]
        (.error ⟨Path.join directory toolchain.fileName, fault⟩)
  | uncompiled (nothing : compileCommand toolchain directory = none) :
      Compiling [sourceWritten toolchain directory source (.ok ())]
        (.ok (.success (artifactOf toolchain directory)))
  | compiled {command : List String} {run : Option Run} {failure : Option CompileFailure}
      (asked : compileCommand toolchain directory = some command) (comes : Comes timeout command run failure)
      (found : Except FileFault ByteArray) :
      Compiling (attempted toolchain directory source timeout command run found)
        (.ok (concludedFrom toolchain directory found failure))

/-- Noting what is done changes nothing, and every compilation takes one of the ways. -/
theorem compile_noted {W : Type} (host : Host W) (world : W) :
    ∃ done,
      (compile host.noted toolchain directory source timeout).run (world, []) =
        (((compile host toolchain directory source timeout).run world).1,
          ((compile host toolchain directory source timeout).run world).2, done) ∧
      Compiling toolchain directory source timeout done
        ((compile host toolchain directory source timeout).run world).1 := by
  simp only [compile, run_bind]
  rw [show host.noted.write = fun path bytes => noting (.wrote path bytes) (host.write path bytes) from rfl]
  simp only [noting_run, List.nil_append]
  generalize (host.write _ _).run world = written
  obtain ⟨came, after⟩ := written
  cases came with
  | error fault => exact ⟨_, rfl, .unwritten fault⟩
  | ok done =>
    cases asked : toolchain.compile with
    | none => exact ⟨_, rfl, .uncompiled (by rw [compileCommand, asked]; rfl)⟩
    | some template =>
      simp only [run_bind]
      obtain ⟨run, ran, comes⟩ := runCompiler_noted host
        ((placeholders directory toolchain.fileName).command template) directory timeout after
        [sourceWritten toolchain directory source (.ok ())]
      have command : compileCommand toolchain directory =
          some ((placeholders directory toolchain.fileName).command template) := by
        rw [compileCommand, asked]
        rfl
      rw [sourceWritten] at ran
      rw [ran, head_noted, head_run_contentOf]
      generalize (runCompiler host _ directory timeout).run after = compiled at comes ⊢
      obtain ⟨failure, later⟩ := compiled
      generalize (host.read _).run later = read
      obtain ⟨found, last⟩ := read
      cases failure <;> exact ⟨_, rfl, .compiled command comes found⟩

/-! ## What a compilation comes to -/

/-- **The diagnostics of a failure**, by what is found of what the compiler has printed. -/
structure Diagnosed (found : Except FileFault ByteArray) (failure : CompileFailure) (diagnostics : String) :
    Prop where
  shown : diagnostics ≠ ""
  bounded : (Utf8.encode diagnostics).length ≤ Cut.limit
  /-- Where anything was printed, its head is shown, ill-formed parts of it as U+FFFD. -/
  printed : contentOf found ≠ [] → diagnostics = Cut.truncate (Utf8.lossy ((contentOf found).take Cut.limit))
  /-- Where nothing was, or nothing can be read, the reason of the failure is. -/
  reason : contentOf found = [] → diagnostics = Cut.truncate failure.message

theorem diagnosed (found : Except FileFault ByteArray) (failure : CompileFailure) :
    Diagnosed found failure (diagnosticsOf ((contentOf found).take Cut.limit) failure) where
  shown := diagnosticsOf_ne_empty _ _
  bounded := by
    rw [Utf8.encode, Utf8.length_encode]
    exact (Cut.longest_truncate _).fits
  printed := by
    intro shown
    -- a head of something is something, and is read as something
    have head : (contentOf found).take Cut.limit ≠ [] := fun empty =>
      (List.take_eq_nil_iff.mp empty).elim (by decide) shown
    rw [diagnosticsOf, if_neg]
    rwa [String.isEmpty_iff, Utf8.lossy_eq_empty_iff]
  reason := by
    intro nothing
    rw [nothing, List.take_nil]
    rfl

/-- The compile command was run, and has ended well in time. -/
def EndedWell (done : List Operation) : Prop :=
  ∃ launch ending elapsed, .ran launch (.ended ending elapsed) ∈ done ∧ ending.succeeded = true

/-- **The three ends of a compilation**, by what was done. -/
structure Classified (done : List Operation) (result : Except SourceFault Compilation) : Prop where
  /-- It begins with the source, and writes nothing else. -/
  begins : ∃ came later, done = sourceWritten toolchain directory source came :: later ∧
    ∀ path bytes came, .wrote path bytes came ∉ later
  /-- It ends in a fault exactly where that cannot be written. -/
  fault_iff (fault : SourceFault) : result = .error fault ↔
    fault.path = Path.join directory toolchain.fileName ∧
      sourceWritten toolchain directory source (.error fault.fault) ∈ done
  /-- It runs nothing else than the compile command, at most once, and only if it has one and the source is
  written. -/
  launched : done.filterMap Operation.launched = [] ∨
    sourceWritten toolchain directory source (.ok ()) ∈ done ∧
      ∃ command, compileCommand toolchain directory = some command ∧ command ≠ [] ∧
        done.filterMap Operation.launched = [compilerLaunch command directory timeout]
  /-- It succeeds exactly where the source is written and no compile command is left that has not ended well. -/
  success_iff (artifact : Artifact) : result = .ok (.success artifact) ↔
    artifact = artifactOf toolchain directory ∧ sourceWritten toolchain directory source (.ok ()) ∈ done ∧
      (compileCommand toolchain directory = none ∨ EndedWell done)
  /-- It fails otherwise, for the reason that the run of the compile command gives, with what was read of the
  output after that. -/
  failure {diagnostics : String} : result = .ok (.failure diagnostics) →
    ∃ command run failure found, compileCommand toolchain directory = some command ∧
      Comes timeout command run (some failure) ∧
      done = attempted toolchain directory source timeout command run found ∧
      Diagnosed found failure diagnostics

variable {toolchain directory source timeout}

theorem Comes.launched {command : List String} {run : Option Run} {failure : Option CompileFailure}
    (comes : Comes timeout command run failure) :
    run = none ∧ command = [] ∨ (∃ came, run = some came) ∧ command ≠ [] := by
  cases comes with
  | noProgram => exact .inl ⟨rfl, rfl⟩
  | _ => exact .inr ⟨⟨_, rfl⟩, List.cons_ne_nil _ _⟩

theorem Comes.endedWell_iff {command : List String} {run : Option Run} {failure : Option CompileFailure}
    (comes : Comes timeout command run failure) :
    failure = none ↔ ∃ ending elapsed, run = some (.ended ending elapsed) ∧ ending.succeeded = true := by
  cases comes with
  | exitedWell well => exact ⟨fun _ => ⟨_, _, rfl, well⟩, fun _ => rfl⟩
  | exitedBadly badly => simp [badly]
  | _ => simp

section

variable {command : List String} {run : Option Run} {found : Except FileFault ByteArray}

theorem sourceWritten_mem_attempted {came : Except FileFault Unit} :
    sourceWritten toolchain directory source came ∈
      attempted toolchain directory source timeout command run found ↔ came = .ok () := by
  simp [attempted, sourceWritten, diagnosticsRead]

theorem ran_mem_attempted {launch : Launch} {came : Run} :
    .ran launch came ∈ attempted toolchain directory source timeout command run found ↔
      launch = compilerLaunch command directory timeout ∧ run = some came := by
  simp [attempted, sourceWritten, diagnosticsRead, eq_comm, and_comm]

theorem launched_attempted :
    (attempted toolchain directory source timeout command run found).filterMap Operation.launched =
      run.toList.map fun _ => compilerLaunch command directory timeout := by
  cases run <;> rfl

theorem classified_unwritten (fault : FileFault) :
    Classified toolchain directory source timeout [sourceWritten toolchain directory source (.error fault)]
      (.error ⟨Path.join directory toolchain.fileName, fault⟩) where
  begins := ⟨_, [], rfl, fun _ _ _ => List.not_mem_nil⟩
  fault_iff := fun other => by
    simp only [sourceWritten, List.mem_singleton, Operation.wrote.injEq, Except.error.injEq, true_and]
    constructor
    · rintro rfl
      exact ⟨rfl, rfl⟩
    · rintro ⟨path, same⟩
      rw [SourceFault.mk.injEq]
      exact ⟨path.symm, same.symm⟩
  launched := .inl rfl
  success_iff := fun artifact => by simp [sourceWritten]
  failure := nofun

theorem classified_uncompiled (nothing : compileCommand toolchain directory = none) :
    Classified toolchain directory source timeout [sourceWritten toolchain directory source (.ok ())]
      (.ok (.success (artifactOf toolchain directory))) where
  begins := ⟨_, [], rfl, fun _ _ _ => List.not_mem_nil⟩
  fault_iff := fun other => by simp [sourceWritten]
  launched := .inl rfl
  success_iff := fun artifact => by simp [nothing, eq_comm]
  failure := nofun

theorem classified_attempted {failure : Option CompileFailure}
    (asked : compileCommand toolchain directory = some command) (comes : Comes timeout command run failure) :
    Classified toolchain directory source timeout
      (attempted toolchain directory source timeout command run found)
      (.ok (concludedFrom toolchain directory found failure)) where
  begins := ⟨_, _, rfl, fun path bytes came => by simp [diagnosticsRead]⟩
  fault_iff := fun fault => by simp [sourceWritten_mem_attempted]
  launched := by
    rw [launched_attempted, sourceWritten_mem_attempted]
    obtain ⟨rfl, -⟩ | ⟨⟨came, rfl⟩, nonempty⟩ := comes.launched
    · exact .inl rfl
    · exact .inr ⟨rfl, command, asked, nonempty, rfl⟩
  success_iff := fun artifact => by
    have well : EndedWell (attempted toolchain directory source timeout command run found) ↔
        failure = none := by
      rw [comes.endedWell_iff]
      simp [EndedWell, ran_mem_attempted]
    rw [sourceWritten_mem_attempted, well, asked]
    cases failure <;> simp [concludedFrom, eq_comm]
  failure := fun {diagnostics} failed => by
    cases failure with
    | none => cases failed
    | some failure =>
      obtain rfl := Compilation.failure.inj (Except.ok.inj failed)
      exact ⟨command, run, failure, found, asked, comes, rfl, diagnosed found failure⟩

end

theorem Compiling.classified {done : List Operation} {result : Except SourceFault Compilation}
    (compiling : Compiling toolchain directory source timeout done result) :
    Classified toolchain directory source timeout done result := by
  cases compiling with
  | unwritten fault => exact classified_unwritten fault
  | uncompiled nothing => exact classified_uncompiled nothing
  | compiled asked comes found => exact classified_attempted asked comes

end

/-- **Every compilation comes to one of three ends.** For every toolchain, directory, source and time limit,
and on every host, however its files and programs behave: compiling ends in a fault exactly where the source
cannot be written, and then runs nothing; in a success exactly where it is written and either there is no
compile command, so that nothing is run, or that has exited with status 0 in time; and in a failure
everywhere else, with the head of what the file of the output holds then, or with the reason of the failure
where that is nothing. Diagnostics are text of at most 4096 bytes, and there is always something in them. -/
theorem compilation_classified {W : Type} (host : Host W) (toolchain : Toolchain) (directory source : String)
    (timeout : Nanos) (world : W) :
    ∃ done result after,
      (compile host toolchain directory source timeout).run world = (result, after) ∧
      (compile host.noted toolchain directory source timeout).run (world, []) = (result, after, done) ∧
      Classified toolchain directory source timeout done result := by
  obtain ⟨done, noted, compiling⟩ := compile_noted toolchain directory source timeout host world
  exact ⟨done, _, _, rfl, noted, compiling.classified⟩

end CodeJudge.Sandbox
