import CodeJudge.Proofs.Actions
import CodeJudge.Sandbox.Toolchain
import Mathlib.Data.List.Induction

/-!
# Which toolchain is in force

The entries of a configuration are applied one after another, and each replaces the toolchain of the language
that it names, in whichever spelling. After that, toolchains may be set by hand. What counts for a language is
what was set for it last.

**The law** (`toolchains_in_force`): a configuration is refused exactly where an entry names no language or has
an empty command, for the first such entry; otherwise the toolchain of a language is that which was set for it
last, by hand or by an entry that names it, and the built-in one if none was (`InForce`). So entries of
different languages may change places.

A table of toolchains is a function here, and has one for every language. That this is no more than the program
has, which looks toolchains up in a map, is proved of such a map (`Lookup`): one that begins with all the
languages and is only ever added to lacks none of them.
-/

namespace CodeJudge

/-! ## Spellings -/

namespace Language

/-- A text denotes a language: it is one of its spellings, but for the blanks around it and the case of its
letters. -/
def Denoted (text : String) (language : Language) : Prop :=
  String.ofList ((Blank.trim text.toList).map Blank.lowerAscii) ∈ language.spellings

instance (text : String) (language : Language) : Decidable (Denoted text language) :=
  inferInstanceAs (Decidable (_ ∈ _))

/-- No two languages share a spelling. -/
theorem eq_of_spelling {language other : Language} :
    ∀ {key : String}, key ∈ language.spellings → key ∈ other.spellings → language = other := by
  cases language <;> cases other <;> decide

theorem mem_all (language : Language) : language ∈ all := by
  cases language <;> decide

theorem denoted_of_parse? {text : String} {language : Language} (parsed : parse? text = some language) :
    Denoted text language := by
  rw [parse?] at parsed
  have found := List.find?_some parsed
  exact List.contains_iff_mem.mp found

/-- A text that denotes a language is read as it. -/
theorem parse?_eq_some_iff {text : String} {language : Language} :
    parse? text = some language ↔ Denoted text language := by
  refine ⟨denoted_of_parse?, fun denoted => ?_⟩
  cases parsed : parse? text with
  | none =>
    have never := List.find?_eq_none.mp parsed language (mem_all language)
    exact absurd (List.contains_iff_mem.mpr denoted) never
  | some other => rw [eq_of_spelling denoted (denoted_of_parse? parsed)]

theorem parse?_eq_none_iff {text : String} : parse? text = none ↔ ∀ language, ¬ Denoted text language := by
  simp only [Option.eq_none_iff_forall_ne_some, ne_eq, parse?_eq_some_iff]

example : Denoted " Python3\n" python := by decide

end Language

namespace Sandbox.Toolchains

open CodeJudge.Language (Denoted)

/-! ## Refused entries -/

/-- An entry is refused, with a fault: it names no language, or has an empty command. -/
inductive Refuses : LanguageEntry → Fault → Prop
  | unsupported {entry : LanguageEntry} (strange : ∀ language, ¬ Denoted entry.language language) :
      Refuses entry (.unsupported entry.language)
  | emptyCommand {entry : LanguageEntry} {language : Language} (named : Denoted entry.language language)
      (empty : entry.run = [] ∨ entry.compile = some []) : Refuses entry (.emptyCommand language)

variable {toolchains before after : Toolchains} {entry : LanguageEntry} {entries others : List LanguageEntry}
  {fault : Fault} {language : Language}

theorem override_eq_error (before : Toolchains) :
    before.override entry = .error fault ↔ Refuses entry fault := by
  constructor
  · intro failed
    unfold override at failed
    cases parsed : Language.parse? entry.language with
    | none =>
      rw [parsed] at failed
      cases failed
      exact .unsupported (Language.parse?_eq_none_iff.mp parsed)
    | some language =>
      simp only [parsed, List.isEmpty_iff, beq_iff_eq, Bool.or_eq_true] at failed
      split at failed
      · rename_i empty
        cases failed
        exact .emptyCommand (Language.parse?_eq_some_iff.mp parsed) empty
      · cases failed
  · rintro (⟨strange⟩ | ⟨named, empty⟩)
    · rw [override, Language.parse?_eq_none_iff.mpr strange]
    · rw [override, Language.parse?_eq_some_iff.mpr named]
      refine if_pos ?_
      rwa [Bool.or_eq_true, List.isEmpty_iff, beq_iff_eq]

/-- An entry that is not refused sets the toolchain of the language that it names. -/
theorem exists_of_override_ok (done : before.override entry = .ok after) :
    ∃ language, Denoted entry.language language ∧ after = before.set language (.ofEntry entry) := by
  unfold override at done
  cases parsed : Language.parse? entry.language with
  | none =>
    rw [parsed] at done
    cases done
  | some language =>
    simp only [parsed] at done
    split at done
    · cases done
    · cases done
      exact ⟨language, Language.parse?_eq_some_iff.mp parsed, rfl⟩

theorem override_ok_iff (before : Toolchains) :
    (∃ after, before.override entry = .ok after) ↔ ∀ fault, ¬ Refuses entry fault := by
  simp only [← override_eq_error before]
  cases before.override entry <;> simp

/-- Entries come well out exactly where none of them is refused. -/
theorem foldlM_override_ok_iff (before : Toolchains) :
    (∃ after, entries.foldlM override before = .ok after) ↔
      ∀ entry ∈ entries, ∀ fault, ¬ Refuses entry fault := by
  induction entries generalizing before with
  | nil => exact ⟨fun _ => nofun, fun _ => ⟨before, rfl⟩⟩
  | cons first rest ih =>
    rw [List.forall_mem_cons, ← override_ok_iff before]
    simp only [List.foldlM_cons, bind_eq_ok]
    constructor
    · rintro ⟨after, between, done, came⟩
      exact ⟨⟨between, done⟩, (ih between).mp ⟨after, came⟩⟩
    · rintro ⟨⟨between, done⟩, sound⟩
      obtain ⟨after, came⟩ := (ih between).mpr sound
      exact ⟨after, between, done, came⟩

theorem ofConfig_ok_iff :
    (∃ after, ofConfig entries = .ok after) ↔ ∀ entry ∈ entries, ∀ fault, ¬ Refuses entry fault :=
  foldlM_override_ok_iff builtin

theorem exists_ofConfig_eq_error :
    (∃ fault, ofConfig entries = .error fault) ↔ ∃ entry ∈ entries, ∃ fault, Refuses entry fault := by
  have either : (∃ fault, ofConfig entries = .error fault) ↔ ¬ ∃ after, ofConfig entries = .ok after := by
    cases ofConfig entries <;> simp
  rw [either, ofConfig_ok_iff]
  simp only [not_forall, not_not, exists_prop]

/-- **The first entry that is refused**, and with what. -/
def FirstRefused (entries : List LanguageEntry) (fault : Fault) : Prop :=
  ∃ earlier entry later, entries = earlier ++ entry :: later ∧
    (∀ other ∈ earlier, ∀ fault, ¬ Refuses other fault) ∧ Refuses entry fault

theorem ofConfig_eq_error : ofConfig entries = .error fault ↔ FirstRefused entries fault := by
  simp only [ofConfig, foldlM_eq_error, FirstRefused, ← foldlM_override_ok_iff builtin,
    override_eq_error, exists_and_left, exists_and_right]

/-! ## The last of several -/

section

variable {α : Type} {p : α → Prop} [DecidablePred p] {list : List α} {x : α}

/-- The last element of a list with a property. -/
def last? (p : α → Prop) [DecidablePred p] (list : List α) : Option α := list.reverse.find? (p ·)

theorem last?_concat (list : List α) (x : α) :
    last? p (list ++ [x]) = if p x then some x else last? p list := by
  rw [last?, List.reverse_append, List.reverse_singleton, List.singleton_append, List.find?_cons]
  by_cases has : p x
  · rw [if_pos has, decide_eq_true has]
  · rw [if_neg has, decide_eq_false has, last?]

theorem last?_eq_none_iff : last? p list = none ↔ ∀ x ∈ list, ¬ p x := by
  simp only [last?, List.find?_eq_none, List.mem_reverse, decide_eq_true_eq]

theorem exists_of_last?_eq_some (found : last? p list = some x) :
    p x ∧ ∃ earlier later, list = earlier ++ x :: later ∧ ∀ y ∈ later, ¬ p y := by
  obtain ⟨has, later, earlier, split, last⟩ := List.find?_eq_some_iff_append.mp found
  refine ⟨of_decide_eq_true has, earlier.reverse, later.reverse, ?_, fun y there => ?_⟩
  · rw [← List.reverse_reverse list, split, List.reverse_append, List.reverse_cons, List.append_assoc,
      List.singleton_append]
  · exact of_decide_eq_false (Bool.not_eq_true' _ ▸ last y (List.mem_reverse.mp there))

/-- It depends on the elements with the property alone. -/
theorem last?_eq_getLast?_filter (p : α → Prop) [DecidablePred p] (list : List α) :
    last? p list = (list.filter (p ·)).getLast? := by
  rw [last?, ← List.head?_filter, List.filter_reverse, List.head?_reverse]

end

/-! ## The last entry of a language -/

/-- The last entry that names a language. -/
def lastNamed? (language : Language) (entries : List LanguageEntry) : Option LanguageEntry :=
  last? (Denoted ·.language language) entries

/-- Sets toolchains, one after another. -/
def setAll (toolchains : Toolchains) (sets : List (Language × Toolchain)) : Toolchains :=
  sets.foldl (fun table entry => table.set entry.1 entry.2) toolchains

/-- The toolchain that is set last for a language. -/
def lastSet? (language : Language) (sets : List (Language × Toolchain)) : Option Toolchain :=
  (last? (·.1 = language) sets).map (·.2)

theorem get_set (toolchain : Toolchain) (other : Language) :
    (toolchains.set language toolchain).get other =
      if language = other then toolchain else toolchains.get other :=
  if_congr eq_comm rfl rfl

/-- After entries that come well out, the last one that names a language counts for it. -/
theorem get_foldlM_override (done : entries.foldlM override before = .ok after) (language : Language) :
    after.get language = ((lastNamed? language entries).map .ofEntry).getD (before.get language) := by
  induction entries using List.reverseRecOn generalizing after with
  | nil =>
    cases done
    rfl
  | append_singleton earlier entry ih =>
    obtain ⟨between, first, last⟩ := exists_of_foldlM_append_ok done
    obtain ⟨named, denoted, rfl⟩ := exists_of_override_ok last
    have same : Denoted entry.language language ↔ named = language :=
      ⟨fun other => Language.eq_of_spelling denoted other, fun eq => eq ▸ denoted⟩
    rw [get_set, ih first, lastNamed?, lastNamed?, last?_concat]
    by_cases eq : named = language
    · rw [if_pos eq, if_pos (same.mpr eq), Option.map_some, Option.getD_some]
    · rw [if_neg eq, if_neg (same.not.mpr eq)]

theorem get_setAll (sets : List (Language × Toolchain)) (language : Language) :
    (toolchains.setAll sets).get language = (lastSet? language sets).getD (toolchains.get language) := by
  induction sets using List.reverseRecOn with
  | nil => rfl
  | append_singleton earlier entry ih =>
    rw [setAll, List.foldl_append, List.foldl_cons, List.foldl_nil, ← setAll, get_set, ih, lastSet?, lastSet?,
      last?_concat]
    by_cases eq : entry.1 = language
    · rw [if_pos eq, if_pos eq, Option.map_some, Option.getD_some]
    · rw [if_neg eq, if_neg eq]

/-- **The toolchain in force** for a language, after the entries of a configuration and what was set by hand
after them. -/
inductive InForce (language : Language) : List LanguageEntry → List (Language × Toolchain) → Toolchain → Prop
  /-- The last one that was set by hand counts. -/
  | set {entries : List LanguageEntry} {earlier later : List (Language × Toolchain)} {toolchain : Toolchain}
      (last : ∀ other ∈ later, other.1 ≠ language) :
      InForce language entries (earlier ++ (language, toolchain) :: later) toolchain
  /-- Where none was, that of the last entry that names the language does. -/
  | entry {earlier later : List LanguageEntry} {entry : LanguageEntry} {sets : List (Language × Toolchain)}
      (unset : ∀ other ∈ sets, other.1 ≠ language) (named : Denoted entry.language language)
      (last : ∀ other ∈ later, ¬ Denoted other.language language) :
      InForce language (earlier ++ entry :: later) sets (.ofEntry entry)
  /-- Where no entry does either, the built-in one does. -/
  | builtin {entries : List LanguageEntry} {sets : List (Language × Toolchain)}
      (unset : ∀ other ∈ sets, other.1 ≠ language)
      (unnamed : ∀ other ∈ entries, ¬ Denoted other.language language) :
      InForce language entries sets (.builtin language)

theorem inForce_last (language : Language) (entries : List LanguageEntry) (sets : List (Language × Toolchain)) :
    InForce language entries sets
      ((lastSet? language sets).getD
        (((lastNamed? language entries).map .ofEntry).getD (.builtin language))) := by
  cases set : last? (·.1 = language) sets with
  | some last =>
    obtain ⟨rfl, earlier, later, rfl, unlike⟩ := exists_of_last?_eq_some set
    rw [lastSet?, set, Option.map_some, Option.getD_some]
    exact .set unlike
  | none =>
    have unset := last?_eq_none_iff.mp set
    rw [lastSet?, set, Option.map_none, Option.getD_none]
    cases entry : lastNamed? language entries with
    | some last =>
      obtain ⟨named, earlier, later, rfl, unlike⟩ := exists_of_last?_eq_some entry
      exact .entry unset named unlike
    | none => exact .builtin unset (last?_eq_none_iff.mp entry)

/-- The toolchains of a configuration: those of the last entries, and the built-in ones. -/
theorem get_ofConfig (done : ofConfig entries = .ok toolchains) (language : Language) :
    toolchains.get language = ((lastNamed? language entries).map .ofEntry).getD (.builtin language) :=
  get_foldlM_override done language

theorem inForce_setAll (done : ofConfig entries = .ok toolchains) (sets : List (Language × Toolchain))
    (language : Language) : InForce language entries sets ((toolchains.setAll sets).get language) := by
  rw [get_setAll, get_ofConfig done]
  exact inForce_last language entries sets

/-! ## Entries that change places -/

/-- **The same entries in another order**, in which those of each language stand as they did. -/
def Rearranged (entries others : List LanguageEntry) : Prop :=
  entries.Perm others ∧ ∀ language : Language,
    entries.filter (Denoted ·.language language) = others.filter (Denoted ·.language language)

/-- Two entries of different languages may change places. -/
theorem rearranged_swap {first second : LanguageEntry}
    (apart : ∀ language, Denoted first.language language → ¬ Denoted second.language language)
    (earlier later : List LanguageEntry) :
    Rearranged (earlier ++ first :: second :: later) (earlier ++ second :: first :: later) := by
  refine ⟨(List.Perm.swap second first later).append_left earlier, fun language => ?_⟩
  by_cases named : Denoted first.language language
  · simp [named, apart language named]
  · simp [List.filter_cons, named]

/-- A configuration that is rearranged is refused if it was before, and else gives the same toolchains. -/
theorem toOption_ofConfig (rearranged : Rearranged entries others) :
    (ofConfig others).toOption = (ofConfig entries).toOption := by
  obtain ⟨perm, same⟩ := rearranged
  have sound : (∃ after, ofConfig entries = .ok after) ↔ ∃ after, ofConfig others = .ok after := by
    simp only [ofConfig_ok_iff, perm.mem_iff]
  cases came : ofConfig entries with
  | error fault =>
    cases gone : ofConfig others with
    | error fault => rfl
    | ok table =>
      obtain ⟨after, done⟩ := sound.mpr ⟨table, gone⟩
      rw [came] at done
      cases done
  | ok table =>
    obtain ⟨after, done⟩ := sound.mp ⟨table, came⟩
    have equal : after = table := by
      rw [Toolchains.mk.injEq]
      funext language
      rw [get_ofConfig done, get_ofConfig came, lastNamed?, lastNamed?, last?_eq_getLast?_filter,
        last?_eq_getLast?_filter, same language]
    rw [done, equal]

/-! ## A map in which toolchains may be missing -/

/-- A map from languages to toolchains, in which that of a language may be missing. -/
structure Lookup where
  get? : Language → Option Toolchain

namespace Lookup

def empty : Lookup := ⟨fun _ => none⟩

def insert (map : Lookup) (language : Language) (toolchain : Toolchain) : Lookup :=
  ⟨fun other => if other = language then some toolchain else map.get? other⟩

/-- The built-in toolchains, put in one by one. -/
def builtin : Lookup :=
  Language.all.foldl (fun map language => map.insert language (.builtin language)) empty

/-- Applies one entry of the configuration. -/
def override (map : Lookup) (entry : LanguageEntry) : Except Fault Lookup :=
  match Language.parse? entry.language with
  | none => .error (.unsupported entry.language)
  | some language =>
    if entry.run.isEmpty || entry.compile == some [] then .error (.emptyCommand language)
    else .ok (map.insert language (.ofEntry entry))

def ofConfig (entries : List LanguageEntry) : Except Fault Lookup := entries.foldlM override builtin

/-- Sets toolchains, one after another. -/
def setAll (map : Lookup) (sets : List (Language × Toolchain)) : Lookup :=
  sets.foldl (fun map entry => map.insert entry.1 entry.2) map

end Lookup

/-- A table as a map that lacks nothing. -/
def toLookup (toolchains : Toolchains) : Lookup := ⟨fun language => some (toolchains.get language)⟩

theorem toLookup_builtin : builtin.toLookup = Lookup.builtin := by
  rw [toLookup, Lookup.mk.injEq]
  funext language
  cases language <;> rfl

theorem toLookup_set (toolchain : Toolchain) :
    (toolchains.set language toolchain).toLookup = toolchains.toLookup.insert language toolchain := by
  simp only [toLookup, set, Lookup.insert, apply_ite some]

theorem toLookup_override : before.toLookup.override entry = (before.override entry).map toLookup := by
  unfold Lookup.override override
  cases Language.parse? entry.language with
  | none => rfl
  | some language =>
    simp only [← toLookup_set]
    split <;> rfl

theorem toLookup_foldlM_override :
    entries.foldlM Lookup.override before.toLookup = (entries.foldlM override before).map toLookup := by
  induction entries generalizing before with
  | nil => rfl
  | cons entry rest ih =>
    rw [List.foldlM_cons, List.foldlM_cons, toLookup_override]
    cases before.override entry with
    | error fault => rfl
    | ok between => exact ih

theorem toLookup_setAll (sets : List (Language × Toolchain)) :
    (toolchains.setAll sets).toLookup = toolchains.toLookup.setAll sets := by
  induction sets generalizing toolchains with
  | nil => rfl
  | cons entry rest ih =>
    rw [setAll, List.foldl_cons, ← setAll, ih, toLookup_set]
    rfl

/-- A configuration comes to the same in both, and the map that it gives lacks nothing. -/
theorem lookup_ofConfig (entries : List LanguageEntry) :
    Lookup.ofConfig entries = (ofConfig entries).map toLookup := by
  rw [Lookup.ofConfig, ← toLookup_builtin, toLookup_foldlM_override, ofConfig]

/-! ## What a configuration comes to -/

/-- **What a configuration comes to.** -/
structure Configured (entries : List LanguageEntry) : Prop where
  /-- It is refused exactly where one of its entries is, -/
  refused_iff : (∃ fault, ofConfig entries = .error fault) ↔ ∃ entry ∈ entries, ∃ fault, Refuses entry fault
  /-- with the fault of the first of these. -/
  fault_iff (fault : Fault) : ofConfig entries = .error fault ↔ FirstRefused entries fault
  /-- Otherwise every language has a toolchain, whatever is set after it: the one that is in force. -/
  inForce {toolchains : Toolchains} (done : ofConfig entries = .ok toolchains)
    (sets : List (Language × Toolchain)) (language : Language) :
    InForce language entries sets ((toolchains.setAll sets).get language)
  /-- Entries of different languages may change places. -/
  rearranged {others : List LanguageEntry} (rearranged : Rearranged entries others) :
    (ofConfig others).toOption = (ofConfig entries).toOption
  /-- Looking toolchains up in a map comes to the same, and none of them is ever missing. -/
  lookup : Lookup.ofConfig entries = (ofConfig entries).map toLookup
  present {map : Lookup} (done : Lookup.ofConfig entries = .ok map) (sets : List (Language × Toolchain))
    (language : Language) :
    ∃ toolchain, (map.setAll sets).get? language = some toolchain ∧ InForce language entries sets toolchain

/-- **A toolchain is that which was set last.** For every list of entries: the configuration is refused exactly
where an entry names no language or has an empty command, for the first such entry; otherwise each language has
the toolchain that was set for it last, by hand or by an entry that names it in any spelling, and the built-in
one if none was. Entries of different languages may change places, and a map of toolchains that is kept in the
same way never lacks the toolchain of a language. -/
theorem toolchains_in_force (entries : List LanguageEntry) : Configured entries where
  refused_iff := exists_ofConfig_eq_error
  fault_iff _ := ofConfig_eq_error
  inForce done sets language := inForce_setAll done sets language
  rearranged := toOption_ofConfig
  lookup := lookup_ofConfig entries
  present {map} done sets language := by
    rw [lookup_ofConfig] at done
    cases came : ofConfig entries with
    | error fault =>
      rw [came] at done
      cases done
    | ok toolchains =>
      rw [came] at done
      cases done
      refine ⟨(toolchains.setAll sets).get language, ?_, inForce_setAll came sets language⟩
      rw [← toLookup_setAll]
      rfl

end Sandbox.Toolchains

end CodeJudge
