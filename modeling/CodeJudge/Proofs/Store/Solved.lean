import CodeJudge.Proofs.Actions
import CodeJudge.Store.Seed
import Mathlib.Data.Finset.Card
import Mathlib.Data.List.Nodup

/-!
# Counts and acceptances in the tables

A user's count stands in the row of the user, and what it should be stands in the judgements: the
problems for which some judgement accepts the user's program. This module says what each operation does
to both. Only adding a judgement can change the second, and only counting changes the first; the
operations that do neither leave a `Frame`.
-/

namespace CodeJudge.Store

/-- The row of a judgement that has been given a number. -/
def NewJudgement.row (judgement : NewJudgement) (id : Id) : JudgementRow where
  id
  user := judgement.user
  submission := judgement.submission
  problem := judgement.problem
  verdict := judgement.verdict.code
  runtime := judgement.runtime
  memory := judgement.memory
  output := judgement.output

/-- Whether a judgement accepts a user's program for a problem. -/
def JudgementRow.accepts (user problem : Id) (row : JudgementRow) : Bool :=
  row.user == user && row.problem == problem && row.verdict == Verdict.accepted.code

/-- Only a judgement with the verdict of acceptance accepts. -/
theorem NewJudgement.accepts_row (judgement : NewJudgement) (id : Id) {user problem : Id} :
    (judgement.row id).accepts user problem = true ↔
      judgement.user = user ∧ judgement.problem = problem ∧ judgement.verdict = .accepted := by
  have code : judgement.verdict.code = Verdict.accepted.code ↔ judgement.verdict = .accepted := by
    cases judgement.verdict <;> decide
  simp only [JudgementRow.accepts, NewJudgement.row, Bool.and_eq_true, beq_iff_eq, code, and_assoc]

namespace Tables

/-- What a user's count stands at; zero where there is no such user. -/
def countOf (tables : Tables) (user : Id) : Int := ((tables.user? user).map (·.solved)).getD 0

/-- The first judgement that accepts a user's program for a problem. -/
def firstAccepted? (tables : Tables) (user problem : Id) : Option JudgementRow :=
  tables.judgements.find? (JudgementRow.accepts user problem)

/-- The problems for which some judgement accepts a user's program. -/
def solved (tables : Tables) (user : Id) : Finset Id :=
  ((tables.judgements.filter fun row =>
    row.user == user && row.verdict == Verdict.accepted.code).map (·.problem)).toFinset

/-- No two judgements have one number, and no number is past the last that was given. -/
structure Numbered (tables : Tables) : Prop where
  distinct : (tables.judgements.map (·.id)).Nodup
  bounded : ∀ row ∈ tables.judgements, row.id ≤ tables.lastJudgement

variable {tables before after : Tables} {user problem : Id}

/-! ## Reading -/

theorem userExists_eq_isSome : tables.userExists user = (tables.user? user).isSome :=
  List.isSome_find?.symm

theorem priorAccepted_eq_isSome :
    tables.priorAccepted user problem = (tables.firstAccepted? user problem).isSome :=
  List.isSome_find?.symm

/-- The count of a user that is there can be read. -/
theorem solvedCount_eq (known : tables.userExists user = true) :
    tables.solvedCount user = .ok (tables.countOf user) := by
  rw [userExists_eq_isSome] at known
  obtain ⟨row, found⟩ := Option.isSome_iff_exists.mp known
  simp only [solvedCount, countOf, found, Option.map_some, Option.getD_some]

/-- A problem is solved when there is a first judgement that accepts it. -/
theorem mem_solved : problem ∈ tables.solved user ↔ (tables.firstAccepted? user problem).isSome := by
  simp only [solved, List.mem_toFinset, List.mem_map, List.mem_filter, firstAccepted?,
    List.find?_isSome, JudgementRow.accepts, Bool.and_eq_true, beq_iff_eq]
  constructor
  · rintro ⟨row, ⟨mem, rfl, accepted⟩, rfl⟩
    exact ⟨row, mem, ⟨rfl, rfl⟩, accepted⟩
  · rintro ⟨row, mem, ⟨rfl, rfl⟩, accepted⟩
    exact ⟨row, ⟨mem, rfl, accepted⟩, rfl⟩

/-- The first judgement that accepts a user's program for a problem is one of that user and problem. -/
theorem accepts_of_firstAccepted? {row : JudgementRow}
    (first : tables.firstAccepted? user problem = some row) :
    row ∈ tables.judgements ∧ row.user = user ∧ row.problem = problem := by
  have accepts := List.find?_some first
  simp only [JudgementRow.accepts, Bool.and_eq_true, beq_iff_eq] at accepts
  exact ⟨List.mem_of_find?_eq_some first, accepts.1⟩

/-- The number of a first acceptance tells whose it is, and for which problem. -/
theorem Numbered.firstAccepted?_inj (numbered : tables.Numbered) {other others : Id}
    {row first : JudgementRow} (here : tables.firstAccepted? user problem = some row)
    (there : tables.firstAccepted? other others = some first) (same : row.id = first.id) :
    user = other ∧ problem = others := by
  obtain ⟨mem, rfl, rfl⟩ := accepts_of_firstAccepted? here
  obtain ⟨mem_, rfl, rfl⟩ := accepts_of_firstAccepted? there
  rw [List.inj_on_of_nodup_map numbered.distinct mem mem_ same]
  exact ⟨rfl, rfl⟩

/-- Changing rows of users without their numbers changes them where they stand. -/
theorem user?_map (change : UserRow → UserRow) (same : ∀ row, (change row).id = row.id)
    (tables : Tables) (user : Id) :
    { tables with users := tables.users.map change }.user? user =
      (tables.user? user).map change := by
  have ids : (fun row : UserRow => row.id == user) ∘ change = fun row => row.id == user := by
    funext row
    simp only [Function.comp_apply, same]
  simp only [user?, List.find?_map, ids]

/-! ## What neither solves nor counts -/

/-- **What an operation leaves that solves nothing and counts nothing.** It may bring in users, who have
solved nothing. -/
structure Frame (before after : Tables) : Prop where
  numbered : before.Numbered → after.Numbered
  users : ∀ user, before.userExists user = true → after.userExists user = true
  counts : ∀ user, after.countOf user = before.countOf user
  firsts : ∀ user problem, after.firstAccepted? user problem = before.firstAccepted? user problem

namespace Frame

theorem refl (tables : Tables) : Frame tables tables :=
  ⟨id, fun _ => id, fun _ => rfl, fun _ _ => rfl⟩

theorem trans {between : Tables} (first : Frame before between) (second : Frame between after) :
    Frame before after where
  numbered := fun numbered => second.numbered (first.numbered numbered)
  users := fun user known => second.users user (first.users user known)
  counts := fun user => (second.counts user).trans (first.counts user)
  firsts := fun user problem => (second.firsts user problem).trans (first.firsts user problem)

/-- What changes no judgement leaves a frame when it leaves the users and their counts. -/
theorem of_judgements (judgements : after.judgements = before.judgements)
    (last : after.lastJudgement = before.lastJudgement)
    (users : ∀ user, before.userExists user = true → after.userExists user = true)
    (counts : ∀ user, after.countOf user = before.countOf user) : Frame before after where
  numbered := fun numbered => ⟨by rw [judgements]; exact numbered.distinct, by
    rw [judgements, last]; exact numbered.bounded⟩
  users := users
  counts := counts
  firsts := fun user problem => by rw [firstAccepted?, judgements, firstAccepted?]

/-- What changes no user and no judgement leaves a frame. -/
theorem of_users (users : after.users = before.users)
    (judgements : after.judgements = before.judgements)
    (last : after.lastJudgement = before.lastJudgement) : Frame before after :=
  of_judgements judgements last (fun user known => by rwa [userExists, users])
    (fun user => by rw [countOf, user?, users, countOf, user?])

end Frame

/-- Putting in a user counts nothing. -/
theorem frame_seedUser {entry : UserEntry} (done : tables.seedUser entry = .ok after) :
    Frame tables after := by
  unfold seedUser at done
  split at done
  · cases done
  · split at done
    · -- the user is there, and takes the name
      cases done
      have same (row : UserRow) :
          (if row.id = entry.id then { row with name := entry.name } else row).id = row.id ∧
          (if row.id = entry.id then { row with name := entry.name } else row).solved =
            row.solved := by
        split <;> exact ⟨rfl, rfl⟩
      have found := user?_map _ (fun row => (same row).1) tables
      refine .of_judgements rfl rfl (fun user known => ?_) (fun user => ?_)
      · rw [userExists_eq_isSome] at known ⊢
        rw [found, Option.isSome_map, known]
      · rw [countOf, found, Option.map_map, countOf]
        congr 2
        exact funext fun row => (same row).2
    · -- the user is new, and has solved nothing
      cases done
      let row : UserRow := { id := entry.id, name := entry.name }
      have found (user : Id) : { tables with users := tables.users ++ [row] }.user? user =
          (tables.user? user).or (if row.id == user then some row else none) := by
        rw [user?, List.find?_append, List.find?_singleton, user?]
      refine .of_judgements rfl rfl (fun user known => ?_) (fun user => ?_)
      · rw [userExists_eq_isSome] at known ⊢
        rw [found, Option.isSome_or, known, Bool.true_or]
      · rw [countOf, found, countOf]
        cases tables.user? user with
        | some row => rfl
        | none =>
          rw [Option.none_or]
          split <;> rfl

theorem frame_addCase (tables : Tables) (problem : Id) (input expected : String) :
    Frame tables (tables.addCase problem input expected) :=
  .of_users rfl rfl rfl

theorem frame_dropCases (tables : Tables) (problem : Id) :
    Frame tables (tables.dropCases problem) :=
  .of_users rfl rfl rfl

theorem frame_seedCases {read : String → Except FileFault String} {index : Nat}
    {entries : List CaseEntry} (done : seedCases read problem index tables entries = .ok after) :
    Frame tables after := by
  induction entries generalizing index tables with
  | nil =>
    cases done
    exact .refl _
  | cons entry rest ih =>
    unfold seedCases at done
    split at done
    · cases done
    · exact (frame_addCase ..).trans (ih done)

theorem frame_seedProblem (tables : Tables) (entry : ProblemEntry) :
    Frame tables (tables.seedProblem entry) := by
  simp only [seedProblem]
  split
  · exact .of_users rfl rfl rfl
  · exact .of_users rfl rfl rfl

/-- Seeding judges nothing and counts nothing. -/
theorem frame_seed {read : String → Except FileFault String} {users : List UserEntry}
    {problems : List ProblemEntry} (done : tables.seed read users problems = .ok after) :
    Frame tables after := by
  obtain ⟨between, users, problems⟩ := exists_of_bind_ok done
  have first := rel_of_foldlM_ok Frame.refl Frame.trans (fun _ _ _ => frame_seedUser) users
  refine first.trans
    (rel_of_foldlM_ok Frame.refl Frame.trans (fun before entry after whole => ?_) problems)
  have problem := frame_seedProblem before entry
  exact (problem.trans (frame_dropCases _ _)).trans (frame_seedCases whole)

/-- Keeping a submission judges nothing and counts nothing. -/
theorem frame_saveSubmission {submission : NewSubmission} {id : Id}
    (saved : tables.saveSubmission submission = .ok (id, after)) : Frame tables after := by
  unfold saveSubmission at saved
  split at saved
  · cases saved
    exact .of_users rfl rfl rfl
  · cases saved

/-! ## Judging -/

/-- The tables with one more judgement. -/
def withJudgement (tables : Tables) (judgement : NewJudgement) : Tables :=
  { tables with
    judgements := tables.judgements ++ [judgement.row (tables.lastJudgement + 1)]
    lastJudgement := tables.lastJudgement + 1 }

/-- A judgement that is added takes the next number. -/
theorem saveJudgement_ok {judgement : NewJudgement} {id : Id}
    (saved : tables.saveJudgement judgement = .ok (id, after)) :
    id = tables.lastJudgement + 1 ∧ after = tables.withJudgement judgement := by
  unfold saveJudgement at saved
  split at saved
  · cases saved
  · split at saved
    · cases saved
      exact ⟨rfl, rfl⟩
    · cases saved

/-- A judgement is the first to accept when it accepts and none did before. -/
theorem firstAccepted?_withJudgement (tables : Tables) (judgement : NewJudgement)
    (user problem : Id) :
    (tables.withJudgement judgement).firstAccepted? user problem =
      (tables.firstAccepted? user problem).or
        (if (judgement.row (tables.lastJudgement + 1)).accepts user problem then
          some (judgement.row (tables.lastJudgement + 1)) else none) := by
  rw [firstAccepted?, withJudgement, List.find?_append, List.find?_singleton, firstAccepted?]

/-- Numbers stay apart when a judgement takes the next one. -/
theorem Numbered.withJudgement (numbered : tables.Numbered) (judgement : NewJudgement) :
    (tables.withJudgement judgement).Numbered where
  distinct := by
    simp only [Tables.withJudgement, List.map_append, List.map_cons, List.map_nil]
    refine List.nodup_append_comm.mp (List.nodup_cons.mpr ⟨fun mem => ?_, numbered.distinct⟩)
    obtain ⟨row, mem, same⟩ := List.mem_map.mp mem
    have bound := numbered.bounded row mem
    rw [same] at bound
    exact Int.not_le.mpr (Int.lt_succ tables.lastJudgement) bound
  bounded := by
    intro row mem
    simp only [Tables.withJudgement] at mem ⊢
    rcases List.mem_append.mp mem with mem | mem
    · exact Int.le_add_one (numbered.bounded row mem)
    · obtain rfl := List.mem_singleton.mp mem
      exact Int.le_refl _

/-- A judgement that is not the first to accept solves nothing. -/
theorem frame_withJudgement {judgement : NewJudgement}
    (later : judgement.verdict = .accepted →
      tables.priorAccepted judgement.user judgement.problem = true) :
    Frame tables (tables.withJudgement judgement) where
  numbered := fun numbered => numbered.withJudgement judgement
  users := fun _ => id
  counts := fun _ => rfl
  firsts := by
    intro user problem
    rw [firstAccepted?_withJudgement]
    split
    · rename_i accepts
      obtain ⟨rfl, rfl, accepted⟩ := (judgement.accepts_row _).mp accepts
      have prior := later accepted
      rw [priorAccepted_eq_isSome] at prior
      exact Option.or_of_isSome prior
    · exact Option.or_none

/-- A judgement that is the first to accept is found from then on. -/
theorem firstAccepted?_of_first {judgement : NewJudgement} (accepted : judgement.verdict = .accepted)
    (none_ : tables.priorAccepted judgement.user judgement.problem = false) :
    (tables.withJudgement judgement).firstAccepted? judgement.user judgement.problem =
      some (judgement.row (tables.lastJudgement + 1)) := by
  rw [priorAccepted_eq_isSome, Option.isSome_eq_false_iff, Option.isNone_iff_eq_none] at none_
  have accepts := (judgement.accepts_row (tables.lastJudgement + 1)).mpr ⟨rfl, rfl, accepted⟩
  rw [firstAccepted?_withJudgement, none_, accepts, Option.none_or, if_pos rfl]

/-- A judgement changes nothing for other users and problems. -/
theorem firstAccepted?_of_other {judgement : NewJudgement}
    (other : (judgement.user, judgement.problem) ≠ (user, problem)) :
    (tables.withJudgement judgement).firstAccepted? user problem =
      tables.firstAccepted? user problem := by
  rw [firstAccepted?_withJudgement]
  split
  · rename_i accepts
    obtain ⟨rfl, rfl, -⟩ := (judgement.accepts_row _).mp accepts
    exact absurd rfl other
  · exact Option.or_none

/-! ## Counting -/

/-- Counting adds one to the count of a user that is there, and to no other. -/
theorem countOf_incrementSolved (known : tables.userExists user = true) (other : Id) :
    (tables.incrementSolved user).countOf other =
      tables.countOf other + if user = other then 1 else 0 := by
  have found := user?_map
    (fun row => if row.id = user then { row with solved := row.solved + 1 } else row)
    (fun row => by split <;> rfl) tables other
  rw [countOf, incrementSolved, found, countOf]
  cases there : tables.user? other with
  | none =>
    have stranger : user ≠ other := by
      rintro rfl
      rw [userExists_eq_isSome, there] at known
      cases known
    simp only [stranger, ↓reduceIte, Option.map_none, Option.getD_none, Int.add_zero]
  | some row =>
    have id : row.id = other := by simpa only [beq_iff_eq] using List.find?_some there
    simp only [Option.map_some, Option.getD_some, id, eq_comm (a := other)]
    split <;> simp only [Int.add_zero]

theorem userExists_incrementSolved (tables : Tables) (user other : Id) :
    (tables.incrementSolved user).userExists other = tables.userExists other := by
  have found := user?_map
    (fun row => if row.id = user then { row with solved := row.solved + 1 } else row)
    (fun row => by split <;> rfl) tables other
  rw [userExists_eq_isSome, incrementSolved, found, Option.isSome_map, userExists_eq_isSome]

end Tables

end CodeJudge.Store
