import CodeJudge.Proofs.Actions
import CodeJudge.Proofs.Files.Tree
import CodeJudge.Sandbox.Compile
import CodeJudge.Sandbox.Execute

/-!
# The directory of a job

Three kinds of files are written into the directory of a job: its source, under a name that the configuration
may choose, what the compiler prints, and what the program prints on each case. Nothing checks the name.

Where the name of the source is a plain one, and none of those that take what is printed (`ProperName`), no
two of these files are the same, all of them stand in the directory itself (`Workplace.Writes.place`), and
jobs with different directories have none in common (`Workplace.Writes.place_ne`). The built-in toolchains
have such names, and so has every table of toolchains whose configuration gives such names
(`properName_ofConfig`).
-/

namespace CodeJudge.Sandbox

/-! ## Names in the directory of a job -/

/-- **A name for a source** that leads to no other directory and to no file that takes what is printed. -/
structure ProperName (name : String) : Prop where
  plain : Path.Plain name
  noDiagnostics : name ≠ diagnosticsName
  noOutput : ∀ index, name ≠ Process.number index ++ ".out"

/-- Where a job is done, and what its source is called. -/
structure Workplace where
  directory : String
  fileName : String

namespace Workplace

/-- The place of the source. -/
def sourcePlace (workplace : Workplace) : List String :=
  Path.place workplace.directory ++ [workplace.fileName]

/-- The paths that take what is printed. -/
inductive Captures (workplace : Workplace) : String → Prop
  | diagnostics : Captures workplace (Path.join workplace.directory diagnosticsName)
  | output (index : Nat) : Captures workplace (outputPath workplace.directory index)

/-- **The paths that a job writes.** -/
inductive Writes (workplace : Workplace) : String → Prop
  | source : Writes workplace (Path.join workplace.directory workplace.fileName)
  | captured {path : String} (captures : workplace.Captures path) : Writes workplace path

end Workplace

theorem outputName_toList (index : Nat) : (Process.number index ++ ".out").toList =
    Nat.toDigits 10 index ++ ['.', 'o', 'u', 't'] := by
  rw [String.toList_append, Process.number]
  exact congrArg (· ++ ['.', 'o', 'u', 't']) Nat.toList_repr

theorem outputName_plain (index : Nat) : Path.Plain (Process.number index ++ ".out") := by
  constructor
  · rw [outputName_toList, List.mem_append, not_or]
    refine ⟨fun mem => ?_, by decide⟩
    exact absurd (Nat.isDigit_of_mem_toDigits (by decide) (by decide) mem) (by decide)
  · have long : 4 ≤ (Process.number index ++ ".out").toList.length := by
      rw [outputName_toList, List.length_append]
      exact Nat.le_add_left _ _
    intro mem
    simp only [List.mem_cons, List.not_mem_nil, or_false] at mem
    rcases mem with same | same | same <;> rw [same] at long <;> exact absurd long (by decide)

theorem diagnosticsName_plain : Path.Plain diagnosticsName := ⟨by decide, by decide⟩

/-- The names of outputs end alike. -/
theorem ProperName.of_getLast? {name : String} (plain : Path.Plain name) (noDiagnostics : name ≠ diagnosticsName)
    (ends : name.toList.getLast? ≠ some 't') : ProperName name where
  plain := plain
  noDiagnostics := noDiagnostics
  noOutput := by
    rintro index rfl
    rw [outputName_toList, List.getLast?_append] at ends
    exact ends rfl

theorem properName_builtin (language : Language) : ProperName (Toolchain.builtin language).fileName := by
  cases language <;> exact .of_getLast? ⟨by decide, by decide⟩ (by decide) (by decide)

/-- **Every toolchain has a proper name for its source** where the configuration gives proper names. -/
theorem properName_ofConfig {entries : List LanguageEntry} {toolchains : Toolchains}
    (accepted : Toolchains.ofConfig entries = .ok toolchains)
    (proper : ∀ entry ∈ entries, ProperName entry.fileName) (language : Language) :
    ProperName (toolchains.get language).fileName := by
  rw [Toolchains.ofConfig] at accepted
  have start : ∀ language, ProperName (Toolchains.builtin.get language).fileName := properName_builtin
  generalize Toolchains.builtin = before at accepted start
  induction entries generalizing before with
  | nil =>
    cases accepted
    exact start language
  | cons entry rest ih =>
    obtain ⟨own, others⟩ := List.forall_mem_cons.mp proper
    rw [List.foldlM_cons] at accepted
    obtain ⟨between, first, rest⟩ := exists_of_bind_ok accepted
    refine ih others between rest fun other => ?_
    rw [Toolchains.override] at first
    split at first
    · cases first
    · split at first
      · cases first
      · cases first
        rw [Toolchains.set]
        dsimp only
        split
        · exact own
        · exact start other

namespace Workplace

variable {workplace other : Workplace} {path : String}

/-- The source stands where its path leads. -/
theorem place_source (proper : ProperName workplace.fileName) :
    Path.place (Path.join workplace.directory workplace.fileName) = workplace.sourcePlace :=
  Path.place_join proper.plain _

/-- What takes something printed stands beside the source. -/
theorem Captures.place (captures : workplace.Captures path) (proper : ProperName workplace.fileName) :
    ∃ name, Path.place path = Path.place workplace.directory ++ [name] ∧ name ≠ workplace.fileName := by
  cases captures with
  | diagnostics => exact ⟨_, Path.place_join diagnosticsName_plain _, proper.noDiagnostics.symm⟩
  | output index => exact ⟨_, Path.place_join (outputName_plain index) _, (proper.noOutput index).symm⟩

theorem Captures.place_ne (captures : workplace.Captures path) (proper : ProperName workplace.fileName) :
    Path.place path ≠ workplace.sourcePlace := by
  obtain ⟨name, place, different⟩ := captures.place proper
  rw [place, sourcePlace]
  intro same
  exact different (List.singleton_inj.mp (List.append_cancel_left same))

/-- **Everything that a job writes stands in its directory.** -/
theorem Writes.place (writes : workplace.Writes path) (proper : ProperName workplace.fileName) :
    ∃ name, Path.place path = Path.place workplace.directory ++ [name] := by
  cases writes with
  | source => exact ⟨_, place_source proper⟩
  | captured captures =>
    obtain ⟨name, place, -⟩ := captures.place proper
    exact ⟨name, place⟩

/-- **Jobs with different directories write no file in common.** -/
theorem Writes.place_ne {path' : String} (writes : workplace.Writes path)
    (proper : ProperName workplace.fileName) (writes' : other.Writes path')
    (proper' : ProperName other.fileName)
    (apart : Path.place other.directory ≠ Path.place workplace.directory) :
    Path.place path' ≠ Path.place path := by
  obtain ⟨name, place⟩ := writes.place proper
  obtain ⟨name', place'⟩ := writes'.place proper'
  rw [place, place']
  intro same
  have front := congrArg List.dropLast same
  rw [List.dropLast_concat, List.dropLast_concat] at front
  exact apart front

end Workplace

end CodeJudge.Sandbox
