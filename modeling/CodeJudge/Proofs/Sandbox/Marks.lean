import CodeJudge.Proofs.Sandbox.Outcome
import CodeJudge.Proofs.Sandbox.Toolchains
import CodeJudge.Proofs.Text.Substitution

/-!
# The marks in a command

The marks in the templates of a toolchain are replaced one after another, and which comes first is not fixed:
they are kept in a map without an order. This module says for which commands that is of no account.

**The law** (`commands_unordered_iff`): where the paths of a job keep apart from the marks, the commands that a
toolchain gives are the same in every order exactly if its templates are clear: if no mark begins at the end of
another, as `%DIR%` does in `%INPUT%DIR%`. The built-in toolchains are clear, so that only an entry of the
configuration can make a command depend on the order, and one that is accepted can (`commands_by_order`).

**What it does not establish.** Which order is taken, where it does matter.
-/

namespace CodeJudge.Sandbox

open Substitution

/-- The marks that stand in templates. -/
def marks : List String := [inputMark, outputMark, directoryMark]

/-- What a mark stands for. -/
def standsFor (directory fileName mark : String) : String :=
  if mark = inputMark then Path.join directory fileName
  else if mark = outputMark then Path.join directory executableName
  else directory

theorem placeholders_eq (directory fileName : String) :
    placeholders directory fileName = marks.map fun mark => (mark, standsFor directory fileName mark) := rfl

theorem framed_marks : ∀ mark ∈ marks, Framed '%' mark.toList := by
  simp only [marks, List.forall_mem_cons, List.not_mem_nil, false_implies, implies_true, and_true]
  exact ⟨⟨"INPUT".toList, by decide, by decide⟩, ⟨"OUTPUT".toList, by decide, by decide⟩,
    ⟨"DIR".toList, by decide, by decide⟩⟩

/-! ## Paths -/

/-- The paths that the marks of a job stand for keep apart from the marks. -/
def Unmarked (directory fileName : String) : Prop :=
  ∀ mark ∈ marks, ∀ other ∈ marks, Apart mark.toList (standsFor directory fileName other).toList

theorem distinct_marks {directory fileName : String} (unmarked : Unmarked directory fileName) :
    Distinct '%' (standsFor directory fileName) marks := ⟨by decide, framed_marks, unmarked⟩

theorem mem_of_mem_join {c : Char} {base name : String} (there : c ∈ (Path.join base name).toList) :
    c ∈ base.toList ∨ c ∈ name.toList ∨ c = '/' := by
  unfold Path.join at there
  split at there
  · exact .inr (.inl there)
  · split at there
    · rw [String.toList_append, List.mem_append] at there
      exact there.imp_right .inl
    · rw [String.toList_append, String.toList_append, List.mem_append, List.mem_append] at there
      rcases there with (there | there) | there
      · exact .inl there
      · exact .inr (.inr (List.mem_singleton.mp there))
      · exact .inr (.inl there)

theorem slash_mem_join {base : String} (slash : '/' ∈ base.toList) (name : String) :
    '/' ∈ (Path.join base name).toList := by
  unfold Path.join
  split
  · rename_i absolute
    unfold Path.isAbsolute at absolute
    split at absolute
    · rename_i start
      rw [start]
      exact List.mem_cons_self ..
    · cases absolute
  · split <;> simp [slash]

/-- Paths without the sign of the marks keep apart from them. -/
theorem unmarked_of_plain {directory fileName : String} (slash : '/' ∈ directory.toList)
    (plain : '%' ∉ directory.toList) (plainName : '%' ∉ fileName.toList) : Unmarked directory fileName := by
  intro mark listed other _
  have joined (name : String) (nameless : '%' ∉ name.toList) :
      '/' ∈ (Path.join directory name).toList ∧ '%' ∉ (Path.join directory name).toList :=
    ⟨slash_mem_join slash name, fun there => by
      rcases mem_of_mem_join there with there | there | there
      · exact plain there
      · exact nameless there
      · cases there⟩
  have path : '/' ∈ (standsFor directory fileName other).toList ∧
      '%' ∉ (standsFor directory fileName other).toList := by
    unfold standsFor
    split
    · exact joined fileName plainName
    · split
      · exact joined executableName (by decide)
      · exact ⟨slash, plain⟩
  have foreign : ∀ mark ∈ marks, '/' ∉ mark.toList := by decide
  exact (framed_marks mark listed).apart path.2 path.1 (foreign mark listed)

/-! ## Commands -/

/-- The arguments in the templates of a toolchain. -/
def Toolchain.arguments (toolchain : Toolchain) : List String := toolchain.run ++ toolchain.compile.getD []

/-- **The commands of a toolchain come out the same in every order** in which the marks are replaced. -/
def Unordered (toolchain : Toolchain) (directory : String) : Prop :=
  ∀ mapping : Mapping, (placeholders directory toolchain.fileName).Perm mapping →
    mapping.command toolchain.run = (artifactOf toolchain directory).command ∧
      toolchain.compile.map mapping.command = compileCommand toolchain directory

theorem apply_map (value : String → String) (order : List String) (text : String) :
    Mapping.apply (order.map fun mark => (mark, value mark)) text =
      String.ofList (substitute value order text.toList) := by
  rw [Mapping.apply, List.foldl_map, substitute]

variable {directory fileName : String} {template : List String}

/-- The orders of what the marks stand for are the orders of the marks. -/
theorem perm_placeholders_iff {mapping : Mapping} :
    (placeholders directory fileName).Perm mapping ↔
      ∃ order, marks.Perm order ∧
        mapping = order.map fun mark => (mark, standsFor directory fileName mark) := by
  rw [placeholders_eq]
  constructor
  · intro perm
    refine ⟨mapping.map (·.1), ?_, ?_⟩
    · exact perm.map (·.1)
    · rw [List.map_map]
      refine (List.map_id mapping).symm.trans (List.map_congr_left fun entry there => ?_)
      obtain ⟨mark, -, rfl⟩ := List.mem_map.mp (perm.mem_iff.mpr there)
      rfl
  · rintro ⟨order, perm, rfl⟩
    exact perm.map _

theorem command_perm_iff (unmarked : Unmarked directory fileName) :
    (∀ mapping : Mapping, (placeholders directory fileName).Perm mapping →
      mapping.command template = (placeholders directory fileName).command template) ↔
      ∀ argument ∈ template, Clear marks argument.toList := by
  have distinct := distinct_marks unmarked
  have single (order : List String) (argument : String) :
      Mapping.apply (order.map fun mark => (mark, standsFor directory fileName mark)) argument =
        (placeholders directory fileName).apply argument ↔
      substitute (standsFor directory fileName) order argument.toList =
        substitute (standsFor directory fileName) marks argument.toList := by
    rw [placeholders_eq, apply_map, apply_map, String.ofList_inj]
  constructor
  · intro same argument there
    refine (distinct.substitute_perm_iff _).mp fun order perm => (single order argument).mp ?_
    exact List.map_inj_left.mp (same _ (perm_placeholders_iff.mpr ⟨order, perm, rfl⟩)) argument there
  · intro clear mapping perm
    obtain ⟨order, marksPerm, rfl⟩ := perm_placeholders_iff.mp perm
    refine List.map_inj_left.mpr fun argument there => (single order argument).mpr ?_
    exact (distinct.substitute_perm_iff _).mpr (clear argument there) order marksPerm

/-- Every mark in a clear argument is replaced by what it stands for. -/
theorem apply_spelled (unmarked : Unmarked directory fileName) {pieces : List Piece}
    (settled : Settled marks [] pieces) :
    (placeholders directory fileName).apply (String.ofList (spelled pieces)) =
      String.ofList (rendered (standsFor directory fileName) marks pieces) := by
  rw [placeholders_eq, apply_map, String.toList_ofList,
    (distinct_marks unmarked).substitute_perm settled (List.Perm.refl marks)]

theorem unordered_iff {toolchain : Toolchain} (unmarked : Unmarked directory toolchain.fileName) :
    Unordered toolchain directory ↔ ∀ argument ∈ toolchain.arguments, Clear marks argument.toList := by
  rw [← command_perm_iff unmarked, Unordered]
  refine forall₂_congr fun mapping _ => ?_
  rw [artifactOf, compileCommand, Toolchain.arguments]
  cases toolchain.compile with
  | none => simp
  | some template =>
    simp only [Mapping.command, Option.map_some, Option.some_inj, Option.getD_some, List.map_inj_left,
      List.forall_mem_append]

/-! ## Clear templates -/

theorem clear_of_plain {argument : String} (plain : '%' ∉ argument.toList) : Clear marks argument.toList := by
  have clear := (clear_nil marks).plain_append framed_marks plain
  rwa [List.append_nil] at clear

theorem clear_mark {mark : String} (listed : mark ∈ marks) : Clear marks mark.toList := by
  have single : ∀ mark ∈ marks, mark.toList.tail ≠ [] := by decide
  have clear := (clear_nil marks).key_append listed fun other there _ begins =>
    single other there (List.prefix_nil.mp begins)
  rwa [List.append_nil] at clear

/-- The built-in toolchains are clear. -/
theorem clear_builtin (language : Language) :
    ∀ argument ∈ (Toolchain.builtin language).arguments, Clear marks argument.toList := by
  have either : ∀ argument ∈ (Toolchain.builtin language).arguments,
      argument ∈ marks ∨ '%' ∉ argument.toList := by
    cases language <;> decide
  exact fun argument there => (either argument there).elim clear_mark clear_of_plain

/-- **Where the order of the marks is of no account.** For every configuration that is accepted, every language
and every directory whose paths keep apart from the marks: the compile command and the run command are the same
for every order in which the marks are replaced, exactly if no argument of the last entry that names the
language, if there is one, has a mark that begins at the end of another. -/
theorem commands_unordered_iff {entries : List LanguageEntry} {toolchains : Toolchains}
    (accepted : Toolchains.ofConfig entries = .ok toolchains) (language : Language)
    (unmarked : Unmarked directory (toolchains.get language).fileName) :
    Unordered (toolchains.get language) directory ↔
      ∀ entry, Toolchains.lastNamed? language entries = some entry →
        ∀ argument ∈ (Toolchain.ofEntry entry).arguments, Clear marks argument.toList := by
  rw [unordered_iff unmarked, Toolchains.get_ofConfig accepted]
  cases Toolchains.lastNamed? language entries with
  | none => exact ⟨nofun, fun _ => clear_builtin language⟩
  | some entry =>
    simp only [Option.map_some, Option.getD_some, Option.some_inj]
    exact ⟨fun clear _ eq => eq ▸ clear, fun clear => clear entry rfl⟩

/-- A language that is run straight from source. -/
def scripted (fileName : String) (run : List String) : LanguageEntry where
  language := "python"
  fileName
  compile := none
  run

theorem ofConfig_scripted (fileName program : String) (arguments : List String) :
    Toolchains.ofConfig [scripted fileName (program :: arguments)] =
      .ok (.set .builtin .python (.ofEntry (scripted fileName (program :: arguments)))) := by
  have parsed : Language.parse? (scripted fileName (program :: arguments)).language = some .python := by
    show Language.parse? "python" = some .python
    decide
  rw [Toolchains.ofConfig, List.foldlM_cons, Toolchains.override, parsed]
  rfl

/-- Marks that do not touch come out the same in every order. -/
theorem commands_unordered_iff_including :
    let entry := scripted "main.py" ["python3", "-I%DIR%/lib", "%INPUT%"]
    let toolchains := Toolchains.builtin.set .python (.ofEntry entry)
    Toolchains.ofConfig [entry] = .ok toolchains ∧ Unmarked "/w" (toolchains.get .python).fileName ∧
      Unordered (toolchains.get .python) "/w" := by
  intro entry toolchains
  have accepted : Toolchains.ofConfig [entry] = .ok toolchains := ofConfig_scripted _ _ _
  have unmarked : Unmarked "/w" (toolchains.get .python).fileName :=
    unmarked_of_plain (by decide) (by decide) (by decide)
  refine ⟨accepted, unmarked, (commands_unordered_iff accepted .python unmarked).mpr ?_⟩
  have last : Toolchains.lastNamed? .python [entry] = some entry := by decide
  have including : Clear marks ("-I".toList ++ (directoryMark.toList ++ ("/lib".toList ++ []))) :=
    (((clear_nil marks).plain_append framed_marks (by decide)).key_append (by decide) (by decide)).plain_append
      framed_marks (by decide)
  intro other found argument there
  obtain rfl := Option.some.inj (last.symm.trans found)
  simp only [Toolchain.arguments, Toolchain.ofEntry, entry, scripted, Option.getD_none, List.append_nil,
    List.mem_cons, List.not_mem_nil, or_false] at there
  rcases there with rfl | rfl | rfl
  · exact clear_of_plain (by decide)
  · exact including
  · exact clear_mark (by decide)

/-- What the marks stand for, with the directory first. -/
def directoryFirst (directory fileName : String) : Mapping :=
  [directoryMark, inputMark, outputMark].map fun mark => (mark, standsFor directory fileName mark)

/-- **The order is of account** for entries that are accepted: where two marks share a sign, and where the name
of the file has a mark in it, the run command is another one if the directory comes first. -/
theorem commands_by_order :
    let sharing := scripted "main.sh" ["%INPUT%DIR%"]
    let nesting := scripted "%DIR%.sh" ["%INPUT%"]
    let toolchains (entry : LanguageEntry) := Toolchains.builtin.set .python (.ofEntry entry)
    (Toolchains.ofConfig [sharing] = .ok (toolchains sharing) ∧
      (placeholders "/w" "main.sh").Perm (directoryFirst "/w" "main.sh") ∧
      (artifactOf ((toolchains sharing).get .python) "/w").command = ["/w/main.shDIR%"] ∧
      (directoryFirst "/w" "main.sh").command ((toolchains sharing).get .python).run = ["%INPUT/w"]) ∧
    Toolchains.ofConfig [nesting] = .ok (toolchains nesting) ∧
      (placeholders "/w" "%DIR%.sh").Perm (directoryFirst "/w" "%DIR%.sh") ∧
      (artifactOf ((toolchains nesting).get .python) "/w").command = ["/w//w.sh"] ∧
      (directoryFirst "/w" "%DIR%.sh").command ((toolchains nesting).get .python).run = ["/w/%DIR%.sh"] := by
  refine ⟨⟨ofConfig_scripted _ _ _, ?_, ?_, ?_⟩, ofConfig_scripted _ _ _, ?_, ?_, ?_⟩ <;> decide

end CodeJudge.Sandbox
