import CodeJudge.Proofs.Store.Solved

/-!
# Rows that are added

A submission and a judgement each go into the tables as one row with the next number; everything else
stays as it was. This module says which row that is, and when it finds its place.

`Keyed` is what the keys and references of the tables mean: no two rows of a table have one number,
numbers are given in order, and a judgement is of a submission that is there.
-/

namespace CodeJudge.Store

/-- The row of a submission that has been given a number. -/
def NewSubmission.row (submission : NewSubmission) (id : Id) : SubmissionRow where
  id
  user := submission.user
  problem := submission.problem
  language := submission.language.name
  source := submission.source
  submitted := submission.submitted

namespace Tables

/-- The tables with one more submission. -/
def withSubmission (tables : Tables) (submission : NewSubmission) : Tables :=
  { tables with
    submissions := tables.submissions ++ [submission.row (tables.lastSubmission + 1)]
    lastSubmission := tables.lastSubmission + 1 }

variable {tables after : Tables}

/-- A submission that is kept takes the next number. -/
theorem saveSubmission_ok {submission : NewSubmission} {id : Id}
    (saved : tables.saveSubmission submission = .ok (id, after)) :
    id = tables.lastSubmission + 1 ∧ after = tables.withSubmission submission := by
  unfold saveSubmission at saved
  split at saved
  · cases saved
    exact ⟨rfl, rfl⟩
  · cases saved

/-- A submission is kept when its user and its problem are there. -/
theorem saveSubmission_of_known {submission : NewSubmission}
    (user : tables.userExists submission.user = true)
    (problem : tables.problemExists submission.problem = true) :
    tables.saveSubmission submission =
      .ok (tables.lastSubmission + 1, tables.withSubmission submission) := by
  rw [saveSubmission, user, problem]
  rfl

/-- A judgement is kept when its submission is there, and has none yet. -/
theorem saveJudgement_of_unjudged {judgement : NewJudgement} {submission : SubmissionRow}
    (unjudged : ∀ row ∈ tables.judgements, row.submission ≠ judgement.submission)
    (mem : submission ∈ tables.submissions) (same : submission.id = judgement.submission) :
    tables.saveJudgement judgement =
      .ok (tables.lastJudgement + 1, tables.withJudgement judgement) := by
  have none_ : tables.judgements.any (·.submission == judgement.submission) = false :=
    List.any_eq_false.mpr fun row mem => by simpa only [beq_iff_eq] using unjudged row mem
  have some_ : tables.submissions.any (·.id == judgement.submission) = true :=
    List.any_eq_true.mpr ⟨submission, mem, beq_iff_eq.mpr same⟩
  rw [saveJudgement, none_, some_]
  rfl

/-- A problem that is there has limits. -/
theorem exists_limits {problem : Id} (there : tables.problemExists problem = true) :
    ∃ limits, tables.limits problem = .ok limits := by
  have found : (tables.problem? problem).isSome := List.isSome_find?.trans there
  obtain ⟨row, found⟩ := Option.isSome_iff_exists.mp found
  exact ⟨⟨row.timeLimit, row.memoryLimit⟩, by rw [limits, found]⟩

/-- A problem that has limits is there. -/
theorem problemExists_of_limits {problem : Id} {found : Limits} (limited : tables.limits problem = .ok found) :
    tables.problemExists problem = true := by
  unfold limits at limited
  split at limited
  · rename_i row here
    exact List.isSome_find?.symm.trans (Option.isSome_iff_exists.mpr ⟨row, here⟩)
  · cases limited

/-- **What the keys and the references of the tables mean.** -/
structure Keyed (tables : Tables) : Prop extends tables.Numbered where
  submissions : (tables.submissions.map (·.id)).Nodup
  lastSubmission : ∀ row ∈ tables.submissions, row.id ≤ tables.lastSubmission
  references : ∀ row ∈ tables.judgements, ∃ submission ∈ tables.submissions,
    submission.id = row.submission

namespace Keyed

/-- Tables without rows have sound keys. -/
theorem empty : Keyed {} := ⟨⟨List.nodup_nil, nofun⟩, List.nodup_nil, nofun, nofun⟩

/-- A number past the last is not taken. -/
theorem not_taken (keyed : tables.Keyed) :
    ∀ row ∈ tables.submissions, row.id ≠ tables.lastSubmission + 1 := by
  intro row mem next
  have bound := keyed.lastSubmission row mem
  rw [next] at bound
  exact Int.not_le.mpr (Int.lt_succ _) bound

/-- No judgement is of a submission that is yet to come. -/
theorem unjudged (keyed : tables.Keyed) :
    ∀ row ∈ tables.judgements, row.submission ≠ tables.lastSubmission + 1 := by
  intro row mem next
  obtain ⟨submission, there, same⟩ := keyed.references row mem
  exact keyed.not_taken submission there (same.trans next)

/-- The only submission with the next number is the one that takes it. -/
theorem eq_of_mem_withSubmission (keyed : tables.Keyed) {submission : NewSubmission}
    {row : SubmissionRow} (mem : row ∈ (tables.withSubmission submission).submissions)
    (next : row.id = tables.lastSubmission + 1) :
    row = submission.row (tables.lastSubmission + 1) := by
  rcases List.mem_append.mp mem with mem | mem
  · exact absurd next (keyed.not_taken row mem)
  · exact List.mem_singleton.mp mem

/-- A submission that takes the next number leaves the keys sound. -/
theorem withSubmission (keyed : tables.Keyed) (submission : NewSubmission) :
    (tables.withSubmission submission).Keyed where
  distinct := keyed.distinct
  bounded := keyed.bounded
  submissions := by
    simp only [Tables.withSubmission, List.map_append, List.map_cons, List.map_nil]
    refine List.nodup_append_comm.mp (List.nodup_cons.mpr ⟨fun mem => ?_, keyed.submissions⟩)
    obtain ⟨row, mem, same⟩ := List.mem_map.mp mem
    exact keyed.not_taken row mem same
  lastSubmission := by
    intro row mem
    rcases List.mem_append.mp mem with mem | mem
    · exact Int.le_add_one (keyed.lastSubmission row mem)
    · obtain rfl := List.mem_singleton.mp mem
      exact Int.le_refl _
  references := by
    intro row mem
    obtain ⟨submission, there, same⟩ := keyed.references row mem
    exact ⟨submission, List.mem_append_left _ there, same⟩

/-- A judgement of a submission that is there leaves the keys sound. -/
theorem withJudgement (keyed : tables.Keyed) {judgement : NewJudgement} {submission : SubmissionRow}
    (mem : submission ∈ tables.submissions) (same : submission.id = judgement.submission) :
    (tables.withJudgement judgement).Keyed where
  toNumbered := keyed.toNumbered.withJudgement judgement
  submissions := keyed.submissions
  lastSubmission := keyed.lastSubmission
  references := by
    intro row there
    rcases List.mem_append.mp there with there | there
    · exact keyed.references row there
    · obtain rfl := List.mem_singleton.mp there
      exact ⟨submission, mem, same⟩

/-- A judgement that the tables take is of a submission that is there. -/
theorem saveJudgement (keyed : tables.Keyed) {judgement : NewJudgement} {id : Id}
    (saved : tables.saveJudgement judgement = .ok (id, after)) : after.Keyed := by
  obtain ⟨-, rfl⟩ := saveJudgement_ok saved
  unfold Tables.saveJudgement at saved
  split at saved
  · cases saved
  · split at saved
    · rename_i there
      obtain ⟨submission, mem, same⟩ := List.any_eq_true.mp there
      exact keyed.withJudgement mem (beq_iff_eq.mp same)
    · cases saved

/-- Counting leaves the keys sound. -/
theorem incrementSolved (keyed : tables.Keyed) (user : Id) : (tables.incrementSolved user).Keyed :=
  ⟨⟨keyed.distinct, keyed.bounded⟩, keyed.submissions, keyed.lastSubmission, keyed.references⟩

end Keyed

/-- The only judgement with the next number is the one that takes it. -/
theorem eq_of_mem_withJudgement (numbered : tables.Numbered) {judgement : NewJudgement}
    {row : JudgementRow} (mem : row ∈ (tables.withJudgement judgement).judgements)
    (next : row.id = tables.lastJudgement + 1) :
    row = judgement.row (tables.lastJudgement + 1) := by
  rcases List.mem_append.mp mem with mem | mem
  · have bound := numbered.bounded row mem
    rw [next] at bound
    exact absurd bound (Int.not_le.mpr (Int.lt_succ _))
  · exact List.mem_singleton.mp mem

/-! ## Seeding -/

/-- **What an operation leaves that adds neither a submission nor a judgement.** -/
structure SameRows (before after : Tables) : Prop where
  submissions : after.submissions = before.submissions
  lastSubmission : after.lastSubmission = before.lastSubmission
  judgements : after.judgements = before.judgements
  lastJudgement : after.lastJudgement = before.lastJudgement

namespace SameRows

theorem refl (tables : Tables) : SameRows tables tables := ⟨rfl, rfl, rfl, rfl⟩

theorem trans {before between after : Tables} (first : SameRows before between)
    (second : SameRows between after) : SameRows before after where
  submissions := second.submissions.trans first.submissions
  lastSubmission := second.lastSubmission.trans first.lastSubmission
  judgements := second.judgements.trans first.judgements
  lastJudgement := second.lastJudgement.trans first.lastJudgement

/-- The keys stay sound. -/
theorem keyed {before after : Tables} (same : SameRows before after) (keyed : before.Keyed) :
    after.Keyed := by
  obtain ⟨submissions, lastSubmission, judgements, lastJudgement⟩ := same
  constructor
  · exact ⟨by rw [judgements]; exact keyed.distinct, by
      rw [judgements, lastJudgement]; exact keyed.bounded⟩
  · rw [submissions]
    exact keyed.submissions
  · rw [submissions, lastSubmission]
    exact keyed.lastSubmission
  · rw [submissions, judgements]
    exact keyed.references

end SameRows

theorem sameRows_seedUser {entry : UserEntry} (done : tables.seedUser entry = .ok after) :
    SameRows tables after := by
  unfold seedUser at done
  split at done
  · cases done
  · split at done
    · cases done
      exact ⟨rfl, rfl, rfl, rfl⟩
    · cases done
      exact ⟨rfl, rfl, rfl, rfl⟩

theorem sameRows_addCase (tables : Tables) (problem : Id) (input expected : String) :
    SameRows tables (tables.addCase problem input expected) := ⟨rfl, rfl, rfl, rfl⟩

theorem sameRows_dropCases (tables : Tables) (problem : Id) :
    SameRows tables (tables.dropCases problem) := ⟨rfl, rfl, rfl, rfl⟩

theorem sameRows_seedCases {read : String → Except FileFault String} {problem : Id} {index : Nat}
    {entries : List CaseEntry} (done : seedCases read problem index tables entries = .ok after) :
    SameRows tables after := by
  induction entries generalizing index tables with
  | nil =>
    cases done
    exact .refl _
  | cons entry rest ih =>
    unfold seedCases at done
    split at done
    · cases done
    · exact (sameRows_addCase ..).trans (ih done)

theorem sameRows_seedProblem (tables : Tables) (entry : ProblemEntry) :
    SameRows tables (tables.seedProblem entry) := by
  simp only [seedProblem]
  split
  · exact ⟨rfl, rfl, rfl, rfl⟩
  · exact ⟨rfl, rfl, rfl, rfl⟩

/-- Seeding adds neither a submission nor a judgement. -/
theorem sameRows_seed {read : String → Except FileFault String} {users : List UserEntry}
    {problems : List ProblemEntry} (done : tables.seed read users problems = .ok after) :
    SameRows tables after := by
  obtain ⟨between, users, problems⟩ := exists_of_bind_ok done
  have first := rel_of_foldlM_ok SameRows.refl SameRows.trans (fun _ _ _ => sameRows_seedUser) users
  refine first.trans
    (rel_of_foldlM_ok SameRows.refl SameRows.trans (fun before entry after whole => ?_) problems)
  have problem := sameRows_seedProblem before entry
  exact (problem.trans (sameRows_dropCases _ _)).trans (sameRows_seedCases whole)

end Tables

end CodeJudge.Store
