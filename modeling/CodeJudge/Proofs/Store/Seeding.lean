import CodeJudge.Proofs.Store.Rows

/-!
# The steps of a seed

A seed is made of steps, each a statement or the reading of a case with the statement that adds it. This
module says which steps a seed takes (`seed_eq_foldlM`), what a step does (`SeedStep.Does`), why a step is
refused (`SeedStep.Refused`), and that a seed fails exactly when, after steps that have come out well, there
is one that the tables refuse as they are then (`seed_eq_error`).

What is kept by every step is kept by every seed that comes out well (`rel_of_seed`): a property of
seeding is shown step by step.
-/

namespace CodeJudge.Store

/-- One step of a seed. -/
inductive SeedStep
  | putUser (entry : UserEntry)
  | putProblem (entry : ProblemEntry)
  | dropCases (problem : Id)
  /-- Reads the case at an index, and adds it to the problem. -/
  | loadCase (problem : Id) (index : Nat) (entry : CaseEntry)
  deriving DecidableEq, Repr

namespace SeedStep

/-- Takes a step. -/
def perform (read : String → Except FileFault String) (tables : Tables) : SeedStep → Except Fault Tables
  | putUser entry => tables.seedUser entry
  | putProblem entry => .ok (tables.seedProblem entry)
  | dropCases problem => .ok (tables.dropCases problem)
  | loadCase problem index entry =>
    match entry.load read with
    | .error fault => .error (.during (Tables.loading index problem) (.file fault))
    | .ok (input, expected) => .ok (tables.addCase problem input expected)

/-- The steps that put in a problem with its cases. -/
def ofProblem (entry : ProblemEntry) : List SeedStep :=
  putProblem entry :: dropCases entry.id :: entry.cases.mapIdx (loadCase entry.id)

/-- The steps of a seed. -/
def ofSeed (users : List UserEntry) (problems : List ProblemEntry) : List SeedStep :=
  users.map putUser ++ problems.flatMap ofProblem

/-- **Why a step is refused.** -/
inductive Refused (read : String → Except FileFault String) (tables : Tables) : SeedStep → Fault → Prop
  /-- The name is that of another user. -/
  | taken {entry : UserEntry} {holder : UserRow} (there : holder ∈ tables.users)
      (name : holder.name = entry.name) (other : holder.id ≠ entry.id) :
      Refused read tables (putUser entry) (.database (.violated (.unique "users.name")))
  | unreadable {problem : Id} {index : Nat} {entry : CaseEntry} {fault : FileFault}
      (unread : entry.load read = .error fault) :
      Refused read tables (loadCase problem index entry)
        (.during (Tables.loading index problem) (.file fault))

/-- **What a step does to the tables** when it comes out well. -/
inductive Does (read : String → Except FileFault String) (tables : Tables) : SeedStep → Tables → Prop
  | renamed {entry : UserEntry} (free : ∀ user ∈ tables.users, user.name = entry.name → user.id = entry.id)
      (known : tables.userExists entry.id = true) :
      Does read tables (putUser entry)
        { tables with
          users := tables.users.map fun user =>
            if user.id = entry.id then { user with name := entry.name } else user }
  | enrolled {entry : UserEntry} (free : ∀ user ∈ tables.users, user.name = entry.name → user.id = entry.id)
      (unknown : tables.userExists entry.id = false) :
      Does read tables (putUser entry)
        { tables with users := tables.users ++ [{ id := entry.id, name := entry.name }] }
  | revised {entry : ProblemEntry} (known : tables.problemExists entry.id = true) :
      Does read tables (putProblem entry)
        { tables with
          problems := tables.problems.map fun problem =>
            if problem.id = entry.id then ⟨entry.id, entry.name, entry.timeLimit, entry.memoryLimit⟩
            else problem }
  | posed {entry : ProblemEntry} (unknown : tables.problemExists entry.id = false) :
      Does read tables (putProblem entry)
        { tables with
          problems := tables.problems ++ [⟨entry.id, entry.name, entry.timeLimit, entry.memoryLimit⟩] }
  | dropped {problem : Id} : Does read tables (dropCases problem) (tables.dropCases problem)
  | loaded {problem : Id} {index : Nat} {entry : CaseEntry} {input expected : String}
      (loads : entry.load read = .ok (input, expected)) :
      Does read tables (loadCase problem index entry) (tables.addCase problem input expected)

variable {read : String → Except FileFault String} {tables after : Tables} {step : SeedStep}
variable {fault : Fault}

theorem does_of_perform (done : step.perform read tables = .ok after) : Does read tables step after := by
  cases step with
  | putUser entry =>
    change tables.seedUser entry = .ok after at done
    unfold Tables.seedUser at done
    split at done
    · cases done
    · rename_i taken
      have free : ∀ user ∈ tables.users, user.name = entry.name → user.id = entry.id := by
        intro user there name
        by_contra other
        refine taken (List.any_eq_true.mpr ⟨user, there, ?_⟩)
        simp only [name, beq_self_eq_true, Bool.true_and, bne_iff_ne, ne_eq, other, not_false_eq_true]
      split at done
      · rename_i known
        cases done
        exact .renamed free known
      · rename_i unknown
        cases done
        exact .enrolled free (Bool.eq_false_iff.mpr unknown)
  | putProblem entry =>
    cases done
    simp only [Tables.seedProblem]
    split
    · rename_i known
      exact .revised known
    · rename_i unknown
      exact .posed (Bool.eq_false_iff.mpr unknown)
  | dropCases problem =>
    cases done
    exact .dropped
  | loadCase problem index entry =>
    cases loads : entry.load read with
    | error cause =>
      simp only [perform, loads] at done
      cases done
    | ok sides =>
      simp only [perform, loads] at done
      cases done
      exact .loaded loads

theorem perform_eq_error : step.perform read tables = .error fault ↔ Refused read tables step fault := by
  constructor
  · intro failed
    cases step with
    | putUser entry =>
      change tables.seedUser entry = .error fault at failed
      unfold Tables.seedUser at failed
      split at failed
      · rename_i taken
        cases failed
        obtain ⟨holder, there, same⟩ := List.any_eq_true.mp taken
        simp only [Bool.and_eq_true, beq_iff_eq, bne_iff_ne] at same
        exact .taken there same.1 same.2
      · split at failed
        · cases failed
        · cases failed
    | putProblem entry => cases failed
    | dropCases problem => cases failed
    | loadCase problem index entry =>
      cases unread : entry.load read with
      | error cause =>
        simp only [perform, unread] at failed
        cases failed
        exact .unreadable unread
      | ok sides =>
        simp only [perform, unread] at failed
        cases failed
  · rintro (⟨there, name, other⟩ | unread)
    · rename_i entry holder
      have taken : (tables.users.any fun user => user.name == entry.name && user.id != entry.id) = true := by
        refine List.any_eq_true.mpr ⟨holder, there, ?_⟩
        simp only [Bool.and_eq_true, beq_iff_eq, bne_iff_ne]
        exact ⟨name, other⟩
      rw [perform, Tables.seedUser, if_pos taken]
    · simp only [perform, unread]

end SeedStep

namespace Tables

variable {read : String → Except FileFault String} {tables after : Tables}
variable {users : List UserEntry} {problems : List ProblemEntry} {fault : Fault}

/-- No file is read for a user. -/
theorem does_of_seedUser {entry : UserEntry} (done : tables.seedUser entry = .ok after) :
    SeedStep.Does (fun _ => .ok "") tables (.putUser entry) after :=
  SeedStep.does_of_perform done

theorem seedCases_eq_foldlM (problem : Id) (index : Nat) (tables : Tables) (entries : List CaseEntry) :
    seedCases read problem index tables entries =
      (entries.mapIdx fun later => SeedStep.loadCase problem (index + later)).foldlM
        (SeedStep.perform read) tables := by
  induction entries generalizing index tables with
  | nil => rfl
  | cons entry rest ih =>
    rw [List.mapIdx_cons, List.foldlM_cons, seedCases]
    simp only [SeedStep.perform, Nat.add_zero]
    cases entry.load read with
    | error cause => rfl
    | ok sides =>
      show seedCases read problem (index + 1) _ rest = _
      rw [ih]
      simp only [Nat.add_assoc, Nat.add_comm 1]
      rfl

theorem seedWhole_eq_foldlM (tables : Tables) (entry : ProblemEntry) :
    seedWhole read tables entry = (SeedStep.ofProblem entry).foldlM (SeedStep.perform read) tables := by
  rw [seedWhole, seedCases_eq_foldlM]
  simp only [Nat.zero_add]
  rfl

/-- **A seed takes its steps one after another.** -/
theorem seed_eq_foldlM (tables : Tables) :
    tables.seed read users problems =
      (SeedStep.ofSeed users problems).foldlM (SeedStep.perform read) tables := by
  have whole (tables : Tables) :
      problems.foldlM (seedWhole read) tables =
        (problems.flatMap SeedStep.ofProblem).foldlM (SeedStep.perform read) tables := by
    induction problems generalizing tables with
    | nil => rfl
    | cons entry rest ih =>
      rw [List.foldlM_cons, List.flatMap_cons, List.foldlM_append, seedWhole_eq_foldlM]
      exact congrArg _ (funext ih)
  rw [seed, SeedStep.ofSeed, List.foldlM_append, List.foldlM_map]
  exact congrArg _ (funext whole)

/-- **When a seed fails**: after steps that have come out well, there is one that the tables refuse as
they are then. -/
theorem seed_eq_error :
    tables.seed read users problems = .error fault ↔
      ∃ made step rest between, SeedStep.ofSeed users problems = made ++ step :: rest ∧
        made.foldlM (SeedStep.perform read) tables = .ok between ∧
        SeedStep.Refused read between step fault := by
  rw [seed_eq_foldlM, foldlM_eq_error]
  simp only [SeedStep.perform_eq_error]

/-- What every step of a seed does, the whole seed does. -/
theorem rel_of_seed {rel : Tables → Tables → Prop} (refl : ∀ tables, rel tables tables)
    (trans : ∀ {first second third}, rel first second → rel second third → rel first third)
    (steps : ∀ {before after} (step : SeedStep), step.perform read before = .ok after → rel before after)
    (done : tables.seed read users problems = .ok after) : rel tables after := by
  rw [seed_eq_foldlM] at done
  exact rel_of_foldlM_ok refl trans (fun _ step _ => steps step) done

end Tables

end CodeJudge.Store
