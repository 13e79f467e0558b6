import CodeJudge.Proofs.Coordinator.Run
import CodeJudge.Proofs.Store.Reseeding

/-!
# Restarting with the same configuration

A coordinator seeds its store whenever it starts. Between two starts there are submissions, which leave the
names of users, the problems and the cases as they are (`retains_of_after?`).

**The law** (`seeded_again`): the second seed comes out well, and leaves everything but the numbers of cases as
it was, unless the list of users passes a name on: one of its entries has a name that in the end is that of a
user who is listed only later. The first seed takes such a list, since the name is given up in between; the
second one meets the name where it has ended up, and is refused (`refused_again`). No name is passed on where
every user is listed under one name.

**What it does not establish.** Anything of a second start with files that have changed.
-/

namespace CodeJudge.Coordinator

open Store (Database Id Tables NamePasses latest?)
open Store.Tables (Retains Unchanged)

/-! ## What submissions leave -/

theorem Moves.retains {request : Request} {fault : Option Fault} {judged : Except Fault JobResult}
    {before after : Database} {stage next : Stage} (moves : Moves request fault judged before stage next after) :
    Retains before.tables after.tables := by
  cases moves with
  | kept made saved =>
    obtain ⟨-, rfl⟩ := Tables.saveSubmission_ok saved
    exact ⟨rfl, rfl, rfl, rfl⟩
  | first made saved accepted =>
    obtain ⟨-, rfl⟩ := Tables.saveJudgement_ok saved
    exact ⟨rfl, rfl, rfl, rfl⟩
  | recorded made saved later =>
    obtain ⟨-, rfl⟩ := Tables.saveJudgement_ok saved
    exact ⟨rfl, rfl, rfl, rfl⟩
  | counted made => exact .incrementSolved ..
  | _ => exact .refl _

/-- Whether an event is a seed. -/
def Event.isSeed : Event → Bool
  | .seed _ _ _ => true
  | .come _ | .step _ _ _ => false

/-- What happens without a seed leaves names, problems and cases. -/
theorem retains_of_after? {start run : Run} {events : List Event} (ran : start.after? events = some run)
    (unseeded : ∀ event ∈ events, event.isSeed = false) :
    Retains start.database.tables run.database.tables := by
  refine foldlM_induction (motive := fun events run => (∀ event ∈ events, event.isSeed = false) →
    Retains start.database.tables run.database.tables) (fun _ => .refl _) ?_ ran unseeded
  intro events between event next _ retains happened unseeded
  have before := retains fun event there => unseeded event (List.mem_append_left _ there)
  cases Run.follows_of_next? happened with
  | came => exact before
  | stepped here free step moves => exact before.trans moves.retains
  | seeded | unseeded => exact absurd (unseeded _ (List.mem_append_right _ List.mem_cons_self)) nofun

/-- The store keeps its numbers apart, wherever seeds and submissions have led. -/
theorem indexed_of_after? {events : List Event} {run : Run} (ran : Run.after? {} events = some run) :
    run.database.tables.Indexed := by
  refine Run.after?_induction (motive := fun _ run => run.database.tables.Indexed)
    ⟨List.nodup_nil, List.nodup_nil, .nil 0⟩ ?_ ran
  intro events run event next _ indexed happened
  cases Run.follows_of_next? happened with
  | came => exact indexed
  | stepped here free step moves => exact moves.retains.indexed indexed
  | seeded done => exact indexed.seed done
  | unseeded => exact indexed

/-! ## The second start -/

/-- **A second start** with the same users and problems, after any submissions, is refused exactly where the
list of users passes a name on; else it changes nothing but the numbers of cases. -/
theorem seeded_again {read : String → Except FileFault String} {users : List UserEntry}
    {problems : List ProblemEntry} {tables : Tables} {start run : Run} {events : List Event}
    (indexed : tables.Indexed) (seeded : tables.seed read users problems = .ok start.database.tables)
    (ran : start.after? events = some run) (unseeded : ∀ event ∈ events, event.isSeed = false) :
    (¬ NamePasses users →
      ∃ again, run.database.tables.seed read users problems = .ok again ∧
        Unchanged problems run.database.tables again) ∧
    (NamePasses users →
      run.database.tables.seed read users problems =
        .error (.database (.violated (.unique "users.name")))) ∧
    ((∀ entry ∈ users, ∀ other ∈ users, entry.id = other.id → entry.name = other.name) →
      ¬ NamePasses users) := by
  have leaves := Tables.Leaves.of_seed indexed seeded
  have retains := retains_of_after? ran unseeded
  have indexedRun := retains.indexed leaves.indexed
  have unfailed : ¬ (tables.NameTaken users ∨ Tables.Unreadable read problems) := by
    rw [← Tables.exists_seed_error_iff indexed, seeded]
    exact nofun
  obtain ⟨free, readable⟩ := not_or.mp unfailed
  have names (id : Id) : (run.database.tables.user? id).map (·.name) = tables.nameAfter? users id := by
    rw [retains.name, leaves.name]
  have passes := Tables.nameTaken_iff_passes free names
  refine ⟨fun unpassed => ?_, fun passed => ?_, Tables.not_namePasses free⟩
  · cases seededAgain : run.database.tables.seed read users problems with
    | ok again => exact ⟨again, rfl, leaves.unchanged retains (.of_seed indexedRun seededAgain)⟩
    | error fault =>
      rcases (Tables.exists_seed_error_iff indexedRun).mp ⟨fault, seededAgain⟩ with taken | unread
      · exact absurd (passes.mp taken) unpassed
      · exact absurd unread readable
  · rw [Tables.seed, (passes.mpr passed).seedUsers indexedRun]
    rfl

/-- A user takes another name and leaves the old one to a new user, who then solves the only problem. -/
def handingOver : List UserEntry := [⟨1, "b"⟩, ⟨2, "a"⟩, ⟨1, "b"⟩]

def onlyProblem : List ProblemEntry := [⟨7, "sum", 1000, 65536, [{ input := some "1" }]⟩]

def handedOver : Run where
  database.tables.users := [⟨1, "b", 5⟩, ⟨2, "a", 0⟩]
  database.tables.problems := [⟨7, "sum", 1000, 65536⟩]
  database.tables.cases := [⟨1, 7, "1", ""⟩]
  database.tables.lastCase := 1

def solving : List Event :=
  .come ⟨⟨2, 7, "go", "package main"⟩, "2026-01-01 00:00:00"⟩ ::
    List.replicate 10 (.step 0 none (.ok ⟨2, .accepted, 1, 1, 0, 0, none⟩))

def solvedOnce : Run := (handedOver.after? solving).getD {}

theorem seeded_again_solvedOnce :
    solvedOnce.database.tables.solvedCount 2 = .ok 1 ∧
    ∃ again, solvedOnce.database.tables.seed (fun _ => .ok "") handingOver onlyProblem = .ok again ∧
      Unchanged onlyProblem solvedOnce.database.tables again ∧ (again.casesOf 7).map (·.id) = [2] := by
  have indexed : Tables.Indexed { users := [⟨1, "a", 5⟩] } :=
    ⟨by decide, List.nodup_nil, .nil 0⟩
  have first : Tables.seed (fun _ => .ok "") handingOver onlyProblem { users := [⟨1, "a", 5⟩] } =
      .ok handedOver.database.tables := rfl
  have ran : handedOver.after? solving = some solvedOnce := rfl
  obtain ⟨unpassed, -, single⟩ := seeded_again indexed first ran (by decide)
  obtain ⟨again, seeded, unchanged⟩ := unpassed (single (by decide))
  cases seeded
  exact ⟨rfl, _, rfl, unchanged, rfl⟩

/-- A user is listed under a name that another user has in the end. -/
def passing : List UserEntry := [⟨1, "a"⟩, ⟨1, "b"⟩, ⟨2, "a"⟩]

/-- **What is refused the second time.** A fresh store takes this list once, and then no more. -/
theorem refused_again :
    ∃ tables, Tables.seed (fun _ => .ok "") passing [] {} = .ok tables ∧
      tables.users = [⟨1, "b", 0⟩, ⟨2, "a", 0⟩] ∧
      tables.seed (fun _ => .ok "") passing [] = .error (.database (.violated (.unique "users.name"))) :=
  ⟨_, rfl, rfl, rfl⟩

end CodeJudge.Coordinator
