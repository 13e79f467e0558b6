import CodeJudge.Proofs.Store.Integrity
import CodeJudge.Proofs.Store.Posing

/-!
# What a seed leaves

A seed goes through its entries in their order. Of several entries with one number the last one counts in the
end (`latest?`); on the way, the name of an entry is held against the names that there are when its turn
comes (`NameTaken`).

**The law** (`seed_leaves`): on tables that are `Indexed`, as the store keeps them, a seed that comes out well
leaves the users and the problems that it lists as their last entries say, with the counts that the users
had and with cases that are all numbered anew, and everything else as it was (`Leaves`). It fails exactly
when the name of an entry is taken or a case cannot be read.

**What it does not establish.** Anything of files that change while a seed is under way: what a file holds is
what `read` says.
-/

namespace CodeJudge

/-- The row of a problem that is put in. -/
def ProblemEntry.row (entry : ProblemEntry) : Store.ProblemRow where
  id := entry.id
  name := entry.name
  timeLimit := entry.timeLimit
  memoryLimit := entry.memoryLimit

namespace Store

/-! ## The last entry -/

section

variable {Entry : Type} {number : Entry → Id} {entries : List Entry} {entry : Entry} {id : Id}

/-- The last of the entries with a number. -/
def latest? (number : Entry → Id) (entries : List Entry) (id : Id) : Option Entry :=
  entries.reverse.find? fun entry => number entry == id

theorem latest?_singleton (number : Entry → Id) (entry : Entry) (id : Id) :
    latest? number [entry] id = if number entry = id then some entry else none := by
  rw [latest?, List.reverse_singleton, List.find?_singleton]
  simp only [beq_iff_eq]

/-- Of two lists, one after the other, the last entry is that of the second, if it has one. -/
theorem latest?_append (number : Entry → Id) (earlier later : List Entry) (id : Id) :
    latest? number (earlier ++ later) id = (latest? number later id).or (latest? number earlier id) := by
  rw [latest?, List.reverse_append, List.find?_append, latest?, latest?]

theorem number_of_latest? (found : latest? number entries id = some entry) : number entry = id := by
  have same := List.find?_some found
  exact beq_iff_eq.mp same

theorem mem_of_latest? (found : latest? number entries id = some entry) : entry ∈ entries :=
  List.mem_reverse.mp (List.mem_of_find?_eq_some found)

theorem latest?_eq_none : latest? number entries id = none ↔ ∀ entry ∈ entries, number entry ≠ id := by
  simp only [latest?, List.find?_eq_none, List.mem_reverse, beq_iff_eq, ne_eq]

end

/-! ## Numbers -/

section

variable {Row : Type} {number : Row → Id} {rows : List Row}

/-- Rows that are changed without their numbers keep them apart. -/
theorem nodup_map_change {change : Row → Row} (same : ∀ row, number (change row) = number row)
    (distinct : (rows.map number).Nodup) : ((rows.map change).map number).Nodup := by
  rw [List.map_map]
  have numbers : number ∘ change = number := funext same
  rwa [numbers]

/-- A row with a number that none has keeps them apart. -/
theorem nodup_append_new {new : Row} (unknown : rows.any (number · == number new) = false)
    (distinct : (rows.map number).Nodup) : ((rows ++ [new]).map number).Nodup := by
  rw [List.map_append]
  refine (List.perm_append_singleton ..).nodup_iff.mpr (List.nodup_cons.mpr ⟨?_, distinct⟩)
  intro there
  obtain ⟨row, mem, same⟩ := List.mem_map.mp there
  exact List.any_eq_false.mp unknown row mem (beq_iff_eq.mpr same)

end

namespace Tables

/-- **The numbers of users, problems and cases**: no two users have one, and no two problems; those of cases
were given in order. -/
structure Indexed (tables : Tables) : Prop where
  users : (tables.users.map (·.id)).Nodup
  problems : (tables.problems.map (·.id)).Nodup
  cases : Ascending (tables.cases.map (·.id)) tables.lastCase

variable {read : String → Except FileFault String} {users : List UserEntry} {problems : List ProblemEntry}
variable {tables before after : Tables} {fault : Fault} {id : Id}

/-- A step of a seed keeps numbers apart. -/
theorem Indexed.of_step {step : SeedStep} (done : step.perform read before = .ok after)
    (indexed : before.Indexed) : after.Indexed := by
  refine ⟨?_, ?_, caseIds_of_step done indexed.cases⟩
  · cases SeedStep.does_of_perform done with
    | renamed free known => exact nodup_map_change (fun row => by split <;> rfl) indexed.users
    | enrolled free unknown => exact nodup_append_new unknown indexed.users
    | revised | posed | dropped | loaded => exact indexed.users
  · cases SeedStep.does_of_perform done with
    | revised known =>
      refine nodup_map_change (fun row => ?_) indexed.problems
      split
      · rename_i same
        exact same.symm
      · rfl
    | posed unknown => exact nodup_append_new unknown indexed.problems
    | renamed | enrolled | dropped | loaded => exact indexed.problems

theorem Indexed.seed (indexed : tables.Indexed) (done : tables.seed read users problems = .ok after) :
    after.Indexed := by
  have keeps := rel_of_seed (fun _ => id) (fun first second indexed => second (first indexed))
    (fun _ => Indexed.of_step) done
  exact keeps indexed

theorem seed_users (read : String → Except FileFault String) (users : List UserEntry) (tables : Tables) :
    tables.seed read users [] = users.foldlM seedUser tables := bind_pure _

theorem seed_problems (read : String → Except FileFault String) (problems : List ProblemEntry)
    (tables : Tables) : tables.seed read [] problems = problems.foldlM (seedWhole read) tables := rfl

theorem id_of_user? {row : UserRow} (found : tables.user? id = some row) : row.id = id := by
  have same := List.find?_some found
  exact beq_iff_eq.mp same

/-- A user that is there is found by the number. -/
theorem Indexed.user?_of_mem (indexed : tables.Indexed) {row : UserRow} (there : row ∈ tables.users) :
    tables.user? row.id = some row := by
  cases found : tables.user? row.id with
  | none => exact absurd (beq_self_eq_true row.id) (List.find?_eq_none.mp found row there)
  | some other =>
    rw [List.inj_on_of_nodup_map indexed.users (List.mem_of_find?_eq_some found) there (id_of_user? found)]

/-! ## Users -/

/-- An entry gives its user the name, and leaves the count; other users stay as they are. -/
theorem user?_seedUser {entry : UserEntry} (done : tables.seedUser entry = .ok after) (id : Id) :
    after.user? id =
      if entry.id = id then some ⟨id, entry.name, tables.countOf id⟩ else tables.user? id := by
  cases does_of_seedUser done with
  | renamed free known =>
    rw [user?_map _ (fun row => by split <;> rfl)]
    cases found : tables.user? id with
    | none =>
      rw [userExists_eq_isSome] at known
      split_ifs with same
      · rw [same, found] at known
        cases known
      · rfl
    | some row =>
      obtain rfl := id_of_user? found
      have count : tables.countOf row.id = row.solved := by rw [countOf, found]; rfl
      by_cases same : row.id = entry.id
      · rw [Option.map_some, if_pos same, if_pos same.symm, count]
      · rw [Option.map_some, if_neg same, if_neg (Ne.symm same)]
  | enrolled free unknown =>
    rw [user?, List.find?_append, List.find?_singleton, ← user?]
    rw [userExists_eq_isSome, Option.isSome_eq_false_iff, Option.isNone_iff_eq_none] at unknown
    by_cases same : entry.id = id
    · subst same
      rw [if_pos rfl, countOf, unknown, beq_self_eq_true]
      rfl
    · rw [if_neg same, beq_eq_false_iff_ne.mpr same]
      exact Option.or_none

/-- Users that are put in one after another are as the last entries for them say. -/
theorem user?_seedUsers (done : users.foldlM seedUser tables = .ok after) (id : Id) :
    after.user? id =
      ((latest? UserEntry.id users id).map fun entry => ⟨id, entry.name, tables.countOf id⟩).or
        (tables.user? id) := by
  induction users using List.reverseRecOn generalizing after with
  | nil =>
    cases done
    rfl
  | append_singleton earlier entry ih =>
    obtain ⟨between, before, last⟩ := exists_of_foldlM_append_ok done
    have count : between.countOf id = tables.countOf id :=
      (rel_of_foldlM_ok Frame.refl Frame.trans (fun _ _ _ => frame_seedUser) before).counts id
    rw [user?_seedUser last, ih before, latest?_append, latest?_singleton, count]
    split <;> rfl

/-- The name that a user has once entries have been put in. -/
def nameAfter? (tables : Tables) (entries : List UserEntry) (id : Id) : Option String :=
  ((latest? UserEntry.id entries id).map (·.name)).or ((tables.user? id).map (·.name))

theorem name_seedUsers (done : users.foldlM seedUser tables = .ok after) (id : Id) :
    (after.user? id).map (·.name) = tables.nameAfter? users id := by
  rw [user?_seedUsers done, nameAfter?]
  cases latest? UserEntry.id users id <;> rfl

/-- **A name is taken**: when the turn of an entry comes, its name is that of another user. -/
def NameTaken (tables : Tables) (users : List UserEntry) : Prop :=
  ∃ earlier entry later, users = earlier ++ entry :: later ∧
    ∃ other ≠ entry.id, tables.nameAfter? earlier other = some entry.name

theorem seedUser_eq_error {entry : UserEntry} :
    tables.seedUser entry = .error fault ↔
      SeedStep.Refused (fun _ => .ok "") tables (.putUser entry) fault := by
  rw [← SeedStep.perform_eq_error]
  rfl

/-- Where users cannot be put in, the name of one of them is taken, and that is what is said. -/
theorem taken_of_seedUsers (indexed : tables.Indexed) (failed : users.foldlM seedUser tables = .error fault) :
    tables.NameTaken users ∧ fault = .database (.violated (.unique "users.name")) := by
  obtain ⟨earlier, entry, later, between, split, came, failed⟩ := foldlM_eq_error.mp failed
  cases seedUser_eq_error.mp failed with
  | @taken _ holder there name other =>
    have indexed : between.Indexed := by
      rw [← seed_users (fun _ => .ok "")] at came
      exact indexed.seed came
    refine ⟨⟨earlier, entry, later, split, holder.id, other, ?_⟩, rfl⟩
    rw [← name_seedUsers came, indexed.user?_of_mem there, Option.map_some, name]

/-- Where a name is taken, users cannot be put in. -/
theorem NameTaken.seedUsers (taken : tables.NameTaken users) (indexed : tables.Indexed) :
    users.foldlM seedUser tables = .error (.database (.violated (.unique "users.name"))) := by
  obtain ⟨earlier, entry, later, rfl, other, apart, name⟩ := taken
  rw [List.foldlM_append]
  cases came : earlier.foldlM seedUser tables with
  | error fault =>
    -- an earlier entry has failed, for the same reason
    obtain ⟨-, rfl⟩ := taken_of_seedUsers indexed came
    rfl
  | ok between =>
    rw [← name_seedUsers came] at name
    obtain ⟨holder, found, named⟩ := Option.map_eq_some_iff.mp name
    have there := List.mem_of_find?_eq_some found
    have refused : between.seedUser entry = .error _ :=
      seedUser_eq_error.mpr (.taken there named (id_of_user? found ▸ apart))
    show (entry :: later).foldlM seedUser between = _
    rw [List.foldlM_cons, refused]
    rfl

/-! ## Problems -/

/-- The cases of a problem are added after all others, in order and with new numbers. -/
theorem cases_seedCases {problem : Id} {index : Nat} {entries : List CaseEntry}
    (done : seedCases read problem index tables entries = .ok after) :
    after.users = tables.users ∧ after.problems = tables.problems ∧ ∃ added,
      after.cases = tables.cases ++ added ∧
      entries.mapM (·.load read) = .ok (added.map fun row => (row.input, row.expected)) ∧
      ∀ row ∈ added, row.problem = problem ∧ tables.lastCase < row.id := by
  induction entries generalizing index tables with
  | nil =>
    cases done
    exact ⟨rfl, rfl, [], (List.append_nil _).symm, rfl, nofun⟩
  | cons entry rest ih =>
    unfold seedCases at done
    cases loads : entry.load read with
    | error fault =>
      rw [loads] at done
      cases done
    | ok sides =>
      rw [loads] at done
      obtain ⟨users, problems, added, rows, loaded, new⟩ := ih done
      refine ⟨users, problems, ⟨tables.lastCase + 1, problem, sides.1, sides.2⟩ :: added, ?_, ?_, ?_⟩
      · rw [rows, addCase, List.append_assoc, List.singleton_append]
      · rw [List.mapM_cons, loads, loaded]
        rfl
      · intro row there
        rcases List.mem_cons.mp there with rfl | there
        · exact ⟨rfl, Int.lt_succ _⟩
        · obtain ⟨own, past⟩ := new row there
          exact ⟨own, Int.lt_trans (Int.lt_succ _) past⟩

/-- **What entries leave of their problems**, and of the others. -/
structure Replaces (read : String → Except FileFault String) (problems : List ProblemEntry)
    (before after : Tables) : Prop where
  users : after.users = before.users
  row : ∀ id, after.problem? id =
    ((latest? ProblemEntry.id problems id).map ProblemEntry.row).or (before.problem? id)
  cases : ∀ {id entry}, latest? ProblemEntry.id problems id = some entry →
    entry.cases.mapM (·.load read) = .ok (after.pairsOf id)
  newer : ∀ {id entry}, latest? ProblemEntry.id problems id = some entry →
    ∀ row ∈ after.casesOf id, before.lastCase < row.id
  others : ∀ {id}, latest? ProblemEntry.id problems id = none → after.casesOf id = before.casesOf id
  lastCase : before.lastCase ≤ after.lastCase

namespace Replaces

theorem nil (tables : Tables) : Replaces read [] tables tables :=
  ⟨rfl, fun _ => rfl, nofun, nofun, fun _ => rfl, Int.le_refl _⟩

theorem single {entry : ProblemEntry} (done : seedWhole read tables entry = .ok after) :
    Replaces read [entry] tables after := by
  obtain ⟨users, problems, added, rows, loaded, new⟩ := cases_seedCases done
  have start : ((tables.seedProblem entry).dropCases entry.id).users = tables.users ∧
      ((tables.seedProblem entry).dropCases entry.id).lastCase = tables.lastCase := by
    unfold seedProblem
    split <;> exact ⟨rfl, rfl⟩
  have casesOf_after (id : Id) : after.casesOf id =
      (if entry.id = id then [] else tables.casesOf id) ++ added.filter (·.problem == id) := by
    rw [casesOf, rows, List.filter_append, ← casesOf, casesOf_dropCases, casesOf_seedProblem]
  have own : after.casesOf entry.id = added := by
    rw [casesOf_after, if_pos rfl, List.nil_append, List.filter_eq_self]
    exact fun row there => beq_iff_eq.mpr (new row there).1
  have listed {id : Id} {other : ProblemEntry} (found : latest? ProblemEntry.id [entry] id = some other) :
      entry.id = id ∧ entry = other := by
    rwa [latest?_singleton, Option.ite_none_right_eq_some, Option.some_inj] at found
  refine ⟨users.trans start.1, fun id => ?_, fun found => ?_, fun found => ?_, fun {id} unlisted => ?_, ?_⟩
  · have row : after.problem? id = ((tables.seedProblem entry).dropCases entry.id).problem? id := by
      rw [problem?, problems, problem?]
    rw [row, problem?_dropCases, problem?_seedProblem, latest?_singleton]
    split <;> rfl
  · obtain ⟨rfl, rfl⟩ := listed found
    rw [loaded, pairsOf, own]
  · obtain ⟨rfl, rfl⟩ := listed found
    intro row there
    rw [own] at there
    exact start.2 ▸ (new row there).2
  · have other : entry.id ≠ id := latest?_eq_none.mp unlisted entry (List.mem_singleton_self entry)
    have none_ : added.filter (·.problem == id) = [] := by
      rw [List.filter_eq_nil_iff]
      intro row there same
      exact other ((new row there).1.symm.trans (beq_iff_eq.mp same))
    rw [casesOf_after, if_neg other, none_, List.append_nil]
  · have seeded : tables.seed read [] [entry] = .ok after := by
      rw [seed_problems, List.foldlM_cons, done]
      rfl
    exact (extends_of_seed seeded).lastCase

/-- Entries replace what entries before them have left. -/
theorem append {between : Tables} {earlier later : List ProblemEntry}
    (first : Replaces read earlier before between) (second : Replaces read later between after) :
    Replaces read (earlier ++ later) before after := by
  refine ⟨second.users.trans first.users, fun id => ?_, fun {id _} found => ?_, fun {id _} found => ?_,
    fun {id} unlisted => ?_, Int.le_trans first.lastCase second.lastCase⟩
  · rw [second.row, first.row, latest?_append]
    cases latest? ProblemEntry.id later id <;> rfl
  · rw [latest?_append] at found
    cases last : latest? ProblemEntry.id later id with
    | some entry =>
      rw [last] at found
      cases found
      exact second.cases last
    | none =>
      rw [last] at found
      rw [pairsOf, second.others last]
      exact first.cases found
  · rw [latest?_append] at found
    cases last : latest? ProblemEntry.id later id with
    | some entry => exact fun row there => Int.lt_of_le_of_lt first.lastCase (second.newer last row there)
    | none =>
      rw [last] at found
      rw [second.others last]
      exact first.newer found
  · rw [latest?_append, Option.or_eq_none_iff] at unlisted
    rw [second.others unlisted.1, first.others unlisted.2]

/-- Problems that are put in one after another replace those that there are. -/
theorem of_seedWhole (done : problems.foldlM (seedWhole read) tables = .ok after) :
    Replaces read problems tables after := by
  induction problems generalizing tables with
  | nil =>
    cases done
    exact .nil _
  | cons entry rest ih =>
    rw [List.foldlM_cons] at done
    obtain ⟨between, first, later⟩ := exists_of_bind_ok done
    exact (single first).append (ih later)

end Replaces

/-- Whether some case cannot be read. -/
def Unreadable (read : String → Except FileFault String) (problems : List ProblemEntry) : Prop :=
  ∃ entry ∈ problems, ∃ case ∈ entry.cases, ∃ fault, case.load read = .error fault

theorem seedProblems_eq_error :
    (∃ fault, problems.foldlM (seedWhole read) tables = .error fault) ↔ Unreadable read problems := by
  rw [← seed_problems]
  constructor
  · rintro ⟨fault, failed⟩
    obtain ⟨made, step, rest, between, split, -, refused⟩ := seed_eq_error.mp failed
    have there : step ∈ problems.flatMap SeedStep.ofProblem := by
      have there := List.mem_append_right made (List.mem_cons_self (a := step) (l := rest))
      rwa [← split] at there
    obtain ⟨entry, listed, own⟩ := List.mem_flatMap.mp there
    simp only [SeedStep.ofProblem, List.mem_cons, List.mem_mapIdx] at own
    rcases own with rfl | rfl | ⟨index, within, rfl⟩
    · cases refused
    · cases refused
    · cases refused with
      | unreadable unread => exact ⟨entry, listed, _, List.getElem_mem within, _, unread⟩
  · rintro ⟨entry, listed, case, own, fault, unread⟩
    obtain ⟨index, within, rfl⟩ := List.getElem_of_mem own
    rw [seed_eq_foldlM]
    have there : .loadCase entry.id index entry.cases[index] ∈ problems.flatMap SeedStep.ofProblem := by
      refine List.mem_flatMap.mpr ⟨entry, listed, ?_⟩
      exact List.mem_cons_of_mem _ (List.mem_cons_of_mem _ (List.mem_mapIdx.mpr ⟨index, within, rfl⟩))
    have fails (between : Tables) :
        ∃ fault, SeedStep.perform read between (.loadCase entry.id index entry.cases[index]) = .error fault :=
      ⟨_, SeedStep.perform_eq_error.mpr (.unreadable unread)⟩
    exact exists_foldlM_error there fails tables

/-! ## The whole seed -/

/-- **What a seed leaves** when it comes out well. -/
structure Leaves (read : String → Except FileFault String) (users : List UserEntry)
    (problems : List ProblemEntry) (before after : Tables) : Prop where
  /-- A user that is listed has the name of its last entry, and the count that it had. -/
  user : ∀ id, after.user? id =
    ((latest? UserEntry.id users id).map fun entry => ⟨id, entry.name, before.countOf id⟩).or
      (before.user? id)
  /-- A problem that is listed has the name and the limits of its last entry. -/
  problem : ∀ id, after.problem? id =
    ((latest? ProblemEntry.id problems id).map ProblemEntry.row).or (before.problem? id)
  /-- It has the cases of its last entry, in order. -/
  cases : ∀ {id entry}, latest? ProblemEntry.id problems id = some entry →
    entry.cases.mapM (·.load read) = .ok (after.pairsOf id)
  /-- They are numbered past all that there were. -/
  newer : ∀ {id entry}, latest? ProblemEntry.id problems id = some entry →
    ∀ row ∈ after.casesOf id, ∀ old ∈ before.cases, old.id < row.id
  otherCases : ∀ {id}, latest? ProblemEntry.id problems id = none → after.casesOf id = before.casesOf id
  rows : SameRows before after
  /-- No number is given twice, so that what is found by a number is all that there is of it. -/
  indexed : after.Indexed

theorem Leaves.of_seed (indexed : tables.Indexed) (done : tables.seed read users problems = .ok after) :
    Leaves read users problems tables after := by
  obtain ⟨between, seeded, posed⟩ := exists_of_bind_ok done
  have replaces := Replaces.of_seedWhole posed
  obtain ⟨same, sameCases, sameLast⟩ := problems_seedUsers seeded
  refine ⟨fun id => ?_, fun id => ?_, replaces.cases, fun found row there old mem => ?_, fun unlisted => ?_,
    sameRows_seed done, indexed.seed done⟩
  · rw [user?, replaces.users, ← user?, user?_seedUsers seeded]
  · rw [replaces.row, problem?, same, ← problem?]
  · have bound := indexed.cases.bounded old.id (List.mem_map_of_mem mem)
    exact Int.lt_of_le_of_lt bound (sameLast ▸ replaces.newer found row there)
  · rw [replaces.others unlisted, casesOf, sameCases, ← casesOf]

theorem Leaves.name (leaves : Leaves read users problems before after) (id : Id) :
    (after.user? id).map (·.name) = before.nameAfter? users id := by
  rw [leaves.user, nameAfter?]
  cases latest? UserEntry.id users id <;> rfl

/-- A seed fails exactly where the name of an entry is taken, or a case cannot be read. -/
theorem exists_seed_error_iff (indexed : tables.Indexed) :
    (∃ fault, tables.seed read users problems = .error fault) ↔
      tables.NameTaken users ∨ Unreadable read problems := by
  cases seeded : users.foldlM seedUser tables with
  | error fault =>
    have taken := (taken_of_seedUsers indexed seeded).1
    exact iff_of_true ⟨fault, by rw [seed, seeded]; rfl⟩ (.inl taken)
  | ok between =>
    have free : ¬ tables.NameTaken users := fun taken => by
      rw [taken.seedUsers indexed] at seeded
      cases seeded
    rw [or_iff_right free, seed, seeded]
    exact seedProblems_eq_error

/-- **What a seed does.** One that comes out well leaves what the last entries say; and a seed fails exactly
where the name of an entry is taken when its turn comes, or some case cannot be read. -/
theorem seed_leaves (indexed : tables.Indexed) (read : String → Except FileFault String)
    (users : List UserEntry) (problems : List ProblemEntry) :
    (∀ after, tables.seed read users problems = .ok after → Leaves read users problems tables after) ∧
    ((∃ fault, tables.seed read users problems = .error fault) ↔
      tables.NameTaken users ∨ Unreadable read problems) :=
  ⟨fun _ => .of_seed indexed, exists_seed_error_iff indexed⟩

/-- Two users and two problems, one of which had two cases more. -/
def stocked : Tables where
  users := [⟨1, "ada", 3⟩, ⟨2, "bob", 0⟩]
  problems := [⟨7, "sum", 1000, 65536⟩, ⟨8, "sort", 1000, 65536⟩]
  cases := [⟨1, 7, "1", "1"⟩, ⟨4, 8, "2 1", "1 2"⟩]
  lastCase := 4

theorem indexed_stocked : stocked.Indexed := ⟨by decide, by decide, ⟨by decide, by decide⟩⟩

/-- A name that passes from one user to another, and a problem that is listed twice. -/
def restocking : List UserEntry × List ProblemEntry :=
  ([⟨1, "cyd"⟩, ⟨3, "ada"⟩, ⟨1, "dan"⟩],
    [⟨7, "sum", 500, 1024, [{}]⟩, ⟨7, "plus", 2000, 4096, [{ input := some "1" }, { inputFile := some "in" }]⟩])

theorem seed_leaves_restocking :
    (∃ after, stocked.seed (fun _ => .ok "2") restocking.1 restocking.2 = .ok after ∧
      Leaves (fun _ => .ok "2") restocking.1 restocking.2 stocked after ∧
      after.users = [⟨1, "dan", 3⟩, ⟨2, "bob", 0⟩, ⟨3, "ada", 0⟩] ∧
      after.casesOf 7 = [⟨6, 7, "1", ""⟩, ⟨7, 7, "2", ""⟩]) ∧
    ∃ fault, stocked.seed (fun _ => .ok "2") [⟨3, "ada"⟩, ⟨1, "dan"⟩] [] = .error fault := by
  obtain ⟨leaves, -⟩ := seed_leaves indexed_stocked (fun _ => .ok "2") restocking.1 restocking.2
  obtain ⟨-, fails⟩ := seed_leaves indexed_stocked (fun _ => .ok "2") [⟨3, "ada"⟩, ⟨1, "dan"⟩] []
  refine ⟨⟨_, rfl, leaves _ rfl, by decide, by decide⟩, fails.mpr (.inl ?_)⟩
  exact ⟨[], ⟨3, "ada"⟩, [⟨1, "dan"⟩], rfl, 1, by decide, by decide⟩

end Tables

end Store

end CodeJudge
