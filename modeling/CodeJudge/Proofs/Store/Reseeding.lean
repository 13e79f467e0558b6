import CodeJudge.Proofs.Store.Entries

/-!
# Seeding once more

The same users and problems put in a second time, where names, problems and cases are as the first time has
left them (`Retains`).

A second time everything but the numbers of cases stays as it is (`Leaves.unchanged`), if nothing is refused.
What may be refused is a name, and that is told by the list of users alone (`nameTaken_iff_passes`): a name
is taken the second time exactly where the list passes it on (`NamePasses`), to a user who comes later and
has it in the end. The first time it was given up before that user came.
-/

namespace CodeJudge.Store

/-! ## Names that are passed on -/

/-- **A name is passed on**: that of an entry is the last name of another user, of whom no entry comes
before it. -/
def NamePasses (users : List UserEntry) : Prop :=
  ∃ earlier entry later last, users = earlier ++ entry :: later ∧
    latest? UserEntry.id earlier last.id = none ∧ latest? UserEntry.id users last.id = some last ∧
    last.id ≠ entry.id ∧ last.name = entry.name

namespace Tables

variable {read : String → Except FileFault String} {users : List UserEntry} {problems : List ProblemEntry}
variable {tables first before between after : Tables} {id : Id}

/-- Once a list of users has been put in, a name of it is taken exactly if it is passed on: an entry before
it would have met the same the first time, and so would it where the other user is not listed. -/
theorem nameTaken_iff_passes (free : ¬ tables.NameTaken users)
    (names : ∀ id, (after.user? id).map (·.name) = tables.nameAfter? users id) :
    after.NameTaken users ↔ NamePasses users := by
  constructor
  · rintro ⟨earlier, entry, later, split, other, apart, name⟩
    cases before : latest? UserEntry.id earlier other with
    | some met =>
      refine absurd ⟨earlier, entry, later, split, other, apart, ?_⟩ free
      rw [nameAfter?, before] at name ⊢
      exact name
    | none =>
      rw [nameAfter?, before, Option.map_none, Option.none_or, names] at name
      cases listed : latest? UserEntry.id users other with
      | none =>
        refine absurd ⟨earlier, entry, later, split, other, apart, ?_⟩ free
        rw [nameAfter?, listed] at name
        rw [nameAfter?, before]
        exact name
      | some last =>
        obtain rfl := number_of_latest? listed
        rw [nameAfter?, listed] at name
        exact ⟨earlier, entry, later, last, split, before, listed, apart, Option.some.inj name⟩
  · rintro ⟨earlier, entry, later, last, split, before, listed, apart, name⟩
    refine ⟨earlier, entry, later, split, last.id, apart, ?_⟩
    rw [nameAfter?, before, Option.map_none, Option.none_or, names, nameAfter?, listed, ← name]
    rfl

/-- A list that could be put in passes no name on where every user is listed under one name. -/
theorem not_namePasses (free : ¬ tables.NameTaken users)
    (single : ∀ entry ∈ users, ∀ other ∈ users, entry.id = other.id → entry.name = other.name) :
    ¬ NamePasses users := by
  rintro ⟨earlier, entry, later, last, split, before, listed, apart, name⟩
  -- the last entry of the other user comes after the one with its name, and meets it
  have there : last ∈ later := by
    have there := mem_of_latest? listed
    rw [split] at there
    rcases List.mem_append.mp there with early | there
    · exact absurd rfl (latest?_eq_none.mp before last early)
    · rcases List.mem_cons.mp there with rfl | there
      · exact absurd rfl apart
      · exact there
  obtain ⟨between, rest, rfl⟩ := List.append_of_mem there
  have whole : users = (earlier ++ entry :: between) ++ last :: rest := by
    rw [split, List.append_assoc, List.cons_append]
  refine free ⟨earlier ++ entry :: between, last, rest, whole, entry.id, Ne.symm apart, ?_⟩
  cases met : latest? UserEntry.id (earlier ++ entry :: between) entry.id with
  | none =>
    have there : entry ∈ earlier ++ entry :: between := List.mem_append_right _ List.mem_cons_self
    exact absurd rfl (latest?_eq_none.mp met entry there)
  | some other =>
    have listedToo : other ∈ users := by
      rw [whole]
      exact List.mem_append_left _ (mem_of_latest? met)
    have listedFirst : entry ∈ users := by
      rw [split]
      exact List.mem_append_right _ List.mem_cons_self
    have same := single other listedToo entry listedFirst (number_of_latest? met)
    rw [nameAfter?, met, Option.map_some, Option.some_or, same, name]

/-! ## What stays -/

/-- **What submissions leave**: the names of users, the problems and the cases. -/
structure Retains (before after : Tables) : Prop where
  users : after.users.map (fun row => (row.id, row.name)) = before.users.map fun row => (row.id, row.name)
  problems : after.problems = before.problems
  cases : after.cases = before.cases
  lastCase : after.lastCase = before.lastCase

namespace Retains

theorem refl (tables : Tables) : Retains tables tables := ⟨rfl, rfl, rfl, rfl⟩

theorem trans (first : Retains before between) (second : Retains between after) :
    Retains before after where
  users := second.users.trans first.users
  problems := second.problems.trans first.problems
  cases := second.cases.trans first.cases
  lastCase := second.lastCase.trans first.lastCase

theorem incrementSolved (tables : Tables) (user : Id) : Retains tables (tables.incrementSolved user) := by
  refine ⟨?_, rfl, rfl, rfl⟩
  rw [Tables.incrementSolved, List.map_map]
  refine List.map_congr_left fun row _ => ?_
  rw [Function.comp_apply]
  split <;> rfl

theorem name (retains : Retains before after) (id : Id) :
    (after.user? id).map (·.name) = (before.user? id).map (·.name) := by
  have found (tables : Tables) : (tables.user? id).map (·.name) =
      ((tables.users.map fun row => (row.id, row.name)).find? (·.1 == id)).map (·.2) := by
    rw [List.find?_map, Option.map_map]
    rfl
  rw [found, found, retains.users]

theorem indexed (retains : Retains before after) (indexed : before.Indexed) : after.Indexed where
  users := by
    have numbers (tables : Tables) :
        tables.users.map (·.id) = (tables.users.map fun row => (row.id, row.name)).map (·.1) := by
      rw [List.map_map]
      rfl
    rw [numbers, retains.users, ← numbers]
    exact indexed.users
  problems := retains.problems ▸ indexed.problems
  cases := by
    rw [retains.cases, retains.lastCase]
    exact indexed.cases

end Retains

/-- **What a seed leaves that changes nothing.** -/
structure Unchanged (problems : List ProblemEntry) (before after : Tables) : Prop where
  user : ∀ id, after.user? id = before.user? id
  problem : ∀ id, after.problem? id = before.problem? id
  /-- The cases of a problem are the same, in the same order. -/
  pairs : ∀ id, after.pairsOf id = before.pairsOf id
  /-- Those of a problem that is not listed have their numbers, too. -/
  otherCases : ∀ {id}, latest? ProblemEntry.id problems id = none → after.casesOf id = before.casesOf id
  rows : SameRows before after
  indexed : after.Indexed

/-- What a list has left once, it leaves again, whatever has been counted in between. -/
theorem Leaves.unchanged (leaves : Leaves read users problems tables first)
    (retains : Retains first between) (again : Leaves read users problems between after) :
    Unchanged problems between after where
  user id := by
    rw [again.user]
    cases listed : latest? UserEntry.id users id with
    | none => rfl
    | some entry =>
      have name := retains.name id
      rw [leaves.user, listed] at name
      obtain ⟨row, found, named⟩ := Option.map_eq_some_iff.mp name
      have count : between.countOf id = row.solved := by rw [countOf, found]; rfl
      have same : row.name = entry.name := named
      rw [Option.map_some, Option.some_or, found, count, ← id_of_user? found, ← same]
  problem id := by
    rw [again.problem, problem?, retains.problems, ← problem?, leaves.problem]
    cases latest? ProblemEntry.id problems id <;> rfl
  pairs id := by
    have same : between.pairsOf id = first.pairsOf id := by
      rw [pairsOf, casesOf, retains.cases, ← casesOf, ← pairsOf]
    cases listed : latest? ProblemEntry.id problems id with
    | none => rw [pairsOf, again.otherCases listed, ← pairsOf]
    | some entry =>
      rw [same]
      exact Except.ok.inj ((again.cases listed).symm.trans (leaves.cases listed))
  otherCases := again.otherCases
  rows := again.rows
  indexed := again.indexed

end Tables

end CodeJudge.Store
