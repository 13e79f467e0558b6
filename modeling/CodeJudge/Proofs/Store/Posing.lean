import CodeJudge.Proofs.Store.Seeding

/-!
# How problems are posed

A problem is posed by its limits and its cases. A seed that comes out well poses the problems that it lists
as they are listed, the cases in the order of the list and with the texts that their files hold; of a
problem that is listed twice, the last entry counts. All other problems stay as they were
(`posing?_seed`).
-/

namespace CodeJudge.Store

/-- How a problem is posed. -/
structure Posing where
  limits : Limits
  /-- The inputs and the expected outputs, in order. -/
  cases : List (String × String)
  deriving DecidableEq, Repr

/-- How an entry poses its problem, when the files of its cases can be read. -/
def Posing.ofEntry? (read : String → Except FileFault String) (entry : ProblemEntry) : Option Posing :=
  match entry.cases.mapM (·.load read) with
  | .ok cases => some { limits := ⟨entry.timeLimit, entry.memoryLimit⟩, cases }
  | .error _ => none

/-- How the entries of a list pose a problem, one after another. -/
def Posing.listed (read : String → Except FileFault String) (problems : List ProblemEntry)
    (problem : Id) : List Posing :=
  problems.filterMap fun entry => if entry.id = problem then ofEntry? read entry else none

namespace Tables

/-- The inputs and the expected outputs of the cases of a problem, in the order of their numbers. -/
def pairsOf (tables : Tables) (problem : Id) : List (String × String) :=
  (tables.casesOf problem).map fun row => (row.input, row.expected)

/-- How a problem is posed in the tables. -/
def posing? (tables : Tables) (problem : Id) : Option Posing :=
  (tables.problem? problem).map fun row =>
    { limits := ⟨row.timeLimit, row.memoryLimit⟩, cases := tables.pairsOf problem }

variable {read : String → Except FileFault String} {tables after : Tables} {problem other : Id}

/-! ## Steps -/

@[simp] theorem problem?_dropCases (tables : Tables) (other problem : Id) :
    (tables.dropCases other).problem? problem = tables.problem? problem := rfl

/-- A case is added after those of its problem, and to no other. -/
theorem pairsOf_addCase (tables : Tables) (other : Id) (input expected : String) (problem : Id) :
    (tables.addCase other input expected).pairsOf problem =
      tables.pairsOf problem ++ if other = problem then [(input, expected)] else [] := by
  simp only [pairsOf, casesOf, addCase, List.filter_append, List.map_append]
  congr 1
  by_cases same : other = problem
  · simp only [List.filter_singleton, same, beq_self_eq_true, cond_true, List.map_singleton, ↓reduceIte]
  · simp only [List.filter_singleton, beq_eq_false_iff_ne.mpr same, cond_false, List.map_nil, same, ↓reduceIte]

/-- Cases are taken away from their problem, and from no other. -/
theorem casesOf_dropCases (tables : Tables) (other problem : Id) :
    (tables.dropCases other).casesOf problem = if other = problem then [] else tables.casesOf problem := by
  simp only [casesOf, dropCases, List.filter_filter]
  by_cases same : other = problem
  · subst same
    rw [if_pos rfl, List.filter_eq_nil_iff]
    intro row _ kept
    simp only [Bool.and_eq_true, beq_iff_eq, bne_iff_ne] at kept
    exact kept.2 kept.1
  · rw [if_neg same]
    refine List.filter_congr fun row _ => ?_
    by_cases own : row.problem = problem
    · simp only [own, beq_self_eq_true, Bool.true_and, bne_iff_ne]
      exact fun eq => same eq.symm
    · simp only [beq_eq_false_iff_ne.mpr own, Bool.false_and]

theorem pairsOf_dropCases (tables : Tables) (other problem : Id) :
    (tables.dropCases other).pairsOf problem = if other = problem then [] else tables.pairsOf problem := by
  rw [pairsOf, casesOf_dropCases]
  split <;> rfl

@[simp] theorem casesOf_seedProblem (tables : Tables) (entry : ProblemEntry) (problem : Id) :
    (tables.seedProblem entry).casesOf problem = tables.casesOf problem := by
  unfold seedProblem
  split <;> rfl

@[simp] theorem pairsOf_seedProblem (tables : Tables) (entry : ProblemEntry) (problem : Id) :
    (tables.seedProblem entry).pairsOf problem = tables.pairsOf problem := by
  rw [pairsOf, casesOf_seedProblem, pairsOf]

theorem id_of_problem? {row : ProblemRow} (found : tables.problem? problem = some row) :
    row.id = problem := by
  have same := List.find?_some found
  exact beq_iff_eq.mp same

theorem problem?_seedProblem (tables : Tables) (entry : ProblemEntry) (problem : Id) :
    (tables.seedProblem entry).problem? problem =
      if entry.id = problem then some ⟨entry.id, entry.name, entry.timeLimit, entry.memoryLimit⟩
      else tables.problem? problem := by
  simp only [seedProblem, problem?]
  by_cases known : tables.problemExists entry.id = true
  · rw [if_pos known]
    -- a row that is changed keeps its number, so the same row is found
    have finds : (fun row : ProblemRow => (if row.id = entry.id then
          (⟨entry.id, entry.name, entry.timeLimit, entry.memoryLimit⟩ : ProblemRow) else row).id == problem) =
        fun row => row.id == problem := by
      funext row
      split
      · rename_i same
        rw [same]
      · rfl
    rw [List.find?_map]
    show ((tables.problems.find? fun row => (ite _ _ _ : ProblemRow).id == problem).map _) = _
    rw [finds]
    by_cases same : entry.id = problem
    · subst same
      obtain ⟨row, found⟩ := Option.isSome_iff_exists.mp (List.isSome_find?.trans known)
      have own : row.id = entry.id := id_of_problem? found
      rw [if_pos rfl, found, Option.map_some, if_pos own]
    · rw [if_neg same]
      cases found : tables.problems.find? (·.id == problem) with
      | none => rfl
      | some row =>
        have own : row.id = problem := id_of_problem? found
        rw [Option.map_some, if_neg fun eq => same (eq.symm.trans own)]
  · rw [if_neg known]
    show (tables.problems ++ [_]).find? _ = _
    rw [List.find?_append]
    by_cases same : entry.id = problem
    · subst same
      have none_ : tables.problems.find? (·.id == entry.id) = none := by
        rw [List.find?_eq_none]
        intro row there own
        exact known (List.any_eq_true.mpr ⟨row, there, own⟩)
      rw [none_, Option.none_or, if_pos rfl, List.find?_singleton, beq_self_eq_true]
      rfl
    · rw [List.find?_singleton, if_neg same, beq_eq_false_iff_ne.mpr same]
      exact Option.or_none

/-! ## Seeds -/

/-- Users that are put in leave the problems and their cases. -/
theorem problems_seedUsers {users : List UserEntry} (done : users.foldlM seedUser tables = .ok after) :
    after.problems = tables.problems ∧ after.cases = tables.cases ∧ after.lastCase = tables.lastCase := by
  induction users generalizing tables with
  | nil =>
    cases done
    exact ⟨rfl, rfl, rfl⟩
  | cons entry rest ih =>
    obtain ⟨between, first, later⟩ := exists_of_bind_ok done
    have kept := ih later
    cases does_of_seedUser first with
    | renamed | enrolled => exact kept

theorem posing?_seedUsers {users : List UserEntry} (done : users.foldlM seedUser tables = .ok after)
    (problem : Id) : after.posing? problem = tables.posing? problem := by
  obtain ⟨problems, cases_, -⟩ := problems_seedUsers done
  rw [posing?, problem?, pairsOf, casesOf, problems, cases_]
  rfl

/-- Cases are added in the order of the list, with the texts that are read. -/
theorem seedCases_ok {index : Nat} {entries : List CaseEntry}
    (done : seedCases read other index tables entries = .ok after) :
    after.problems = tables.problems ∧ ∃ cases, entries.mapM (·.load read) = .ok cases ∧
      ∀ problem, after.pairsOf problem =
        tables.pairsOf problem ++ if other = problem then cases else [] := by
  induction entries generalizing index tables with
  | nil =>
    cases done
    refine ⟨rfl, [], rfl, fun problem => ?_⟩
    rw [ite_self, List.append_nil]
  | cons entry rest ih =>
    unfold seedCases at done
    cases loads : entry.load read with
    | error fault =>
      rw [loads] at done
      cases done
    | ok sides =>
      rw [loads] at done
      obtain ⟨problems, cases, loaded, pairs⟩ := ih done
      refine ⟨problems, sides :: cases, ?_, fun problem => ?_⟩
      · rw [List.mapM_cons, loads, loaded]
        rfl
      · rw [pairs, pairsOf_addCase, List.append_assoc]
        split <;> rfl

/-- An entry poses its problem, and no other. -/
theorem posing?_seedWhole {entry : ProblemEntry} (done : seedWhole read tables entry = .ok after) :
    ∃ posing, Posing.ofEntry? read entry = some posing ∧ ∀ problem,
      after.posing? problem = if entry.id = problem then some posing else tables.posing? problem := by
  obtain ⟨problems, cases, loaded, pairs⟩ := seedCases_ok done
  refine ⟨⟨⟨entry.timeLimit, entry.memoryLimit⟩, cases⟩, ?_, fun problem => ?_⟩
  · simp only [Posing.ofEntry?, loaded]
  · have row : after.problem? problem =
        ((tables.seedProblem entry).dropCases entry.id).problem? problem := by
      rw [problem?, problems]
      rfl
    rw [posing?, row, problem?_dropCases, problem?_seedProblem, pairs, pairsOf_dropCases,
      pairsOf_seedProblem]
    by_cases same : entry.id = problem
    · simp only [same, ↓reduceIte, List.nil_append, Option.map_some]
    · simp only [same, ↓reduceIte, List.append_nil, posing?]

/-- Problems that are put in one after another are posed as the last entry for them does. -/
theorem posing?_seedProblems {problems : List ProblemEntry}
    (done : problems.foldlM (seedWhole read) tables = .ok after) (problem : Id) :
    after.posing? problem = (Posing.listed read problems problem).getLast?.or (tables.posing? problem) := by
  induction problems generalizing tables with
  | nil =>
    cases done
    rfl
  | cons entry rest ih =>
    rw [List.foldlM_cons] at done
    obtain ⟨between, whole, others⟩ := exists_of_bind_ok done
    obtain ⟨posing, own, poses⟩ := posing?_seedWhole whole
    rw [ih others, poses]
    by_cases same : entry.id = problem
    · have listed : Posing.listed read (entry :: rest) problem = posing :: Posing.listed read rest problem := by
        rw [Posing.listed, List.filterMap_cons, if_pos same, own]
        rfl
      rw [if_pos same, listed, List.getLast?_cons]
      cases (Posing.listed read rest problem).getLast? with
      | none => rfl
      | some last => rfl
    · have listed : Posing.listed read (entry :: rest) problem = Posing.listed read rest problem := by
        rw [Posing.listed, List.filterMap_cons, if_neg same]
        rfl
      rw [if_neg same, listed]

/-- **A seed poses the problems that it lists** as the last entry for them does, and no others. -/
theorem posing?_seed {users : List UserEntry} {problems : List ProblemEntry}
    (done : tables.seed read users problems = .ok after) (problem : Id) :
    after.posing? problem = (Posing.listed read problems problem).getLast?.or (tables.posing? problem) := by
  obtain ⟨between, seeded, posed⟩ := exists_of_bind_ok done
  rw [posing?_seedProblems posed, posing?_seedUsers seeded]

end Tables

end CodeJudge.Store
