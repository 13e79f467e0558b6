import CodeJudge.Proofs.Store.Seeding
import Mathlib.Data.List.Infix

/-!
# Referential integrity

What the rows of the tables say about one another (`Tables.Integral`), and what later tables have kept of
earlier ones (`Tables.Extends`). Both are shown for the steps of a seed here; a submission and a judgement
keep them when they are added.

A judgement holds the user and the problem of its submission a second time. The tables do not tie them
together, so `Integral.withJudgement` asks for a row of the submission that agrees with both.
-/

namespace CodeJudge.Store

/-- Numbers that were given in order, none of them past the last that was given. -/
structure Ascending (ids : List Id) (last : Id) : Prop where
  ordered : ids.Pairwise (· < ·)
  bounded : ∀ id ∈ ids, id ≤ last

namespace Ascending

variable {ids fewer : List Id} {last : Id}

theorem nil (last : Id) : Ascending [] last := ⟨.nil, nofun⟩

/-- The next number comes after all. -/
theorem next (ascending : Ascending ids last) : Ascending (ids ++ [last + 1]) (last + 1) where
  ordered := by
    refine List.pairwise_append.mpr ⟨ascending.ordered, List.pairwise_singleton .., ?_⟩
    intro id mem other there
    obtain rfl := List.mem_singleton.mp there
    exact Int.lt_add_one_of_le (ascending.bounded id mem)
  bounded := by
    intro id mem
    rcases List.mem_append.mp mem with mem | mem
    · exact Int.le_add_one (ascending.bounded id mem)
    · obtain rfl := List.mem_singleton.mp mem
      exact Int.le_refl _

/-- Where rows are taken away, the numbers of the others stay in order. -/
theorem sublist (ascending : Ascending ids last) (part : fewer.Sublist ids) : Ascending fewer last where
  ordered := ascending.ordered.sublist part
  bounded id mem := ascending.bounded id (part.mem mem)

end Ascending

namespace Tables

/-- Whether a row of the submission is there, for the user and the problem. -/
def Refers (tables : Tables) (submission user problem : Id) : Prop :=
  ∃ row ∈ tables.submissions, row.id = submission ∧ row.user = user ∧ row.problem = problem

/-- **What the rows of the tables say about one another.** -/
structure Integral (tables : Tables) : Prop where
  /-- A submission is of a user and for a problem that are there. -/
  submissions : ∀ row ∈ tables.submissions,
    tables.userExists row.user = true ∧ tables.problemExists row.problem = true
  /-- A judgement is of a submission that is there, by its user and for its problem. -/
  judgements : ∀ row ∈ tables.judgements, tables.Refers row.submission row.user row.problem
  judgedOnce : (tables.judgements.map (·.submission)).Nodup
  verdicts : ∀ row ∈ tables.judgements, (Verdict.ofCode? row.verdict).isSome
  languages : ∀ row ∈ tables.submissions, (Language.parse? row.language).isSome
  submissionIds : Ascending (tables.submissions.map (·.id)) tables.lastSubmission
  judgementIds : Ascending (tables.judgements.map (·.id)) tables.lastJudgement
  caseIds : Ascending (tables.cases.map (·.id)) tables.lastCase

/-- **What later tables have kept of earlier ones.** Submissions and judgements stay, and so do users and
problems, apart from their names, counts and limits; a case that was not there has a number past the last
that had been given. -/
structure Extends (before after : Tables) : Prop where
  users : ∀ user, before.userExists user = true → after.userExists user = true
  problems : ∀ problem, before.problemExists problem = true → after.problemExists problem = true
  submissions : before.submissions <+: after.submissions
  judgements : before.judgements <+: after.judgements
  cases : ∀ row ∈ after.cases, row ∈ before.cases ∨ before.lastCase < row.id
  lastCase : before.lastCase ≤ after.lastCase

variable {tables before after : Tables}

namespace Extends

theorem refl (tables : Tables) : Extends tables tables where
  users _ := id
  problems _ := id
  submissions := List.prefix_rfl
  judgements := List.prefix_rfl
  cases _ := .inl
  lastCase := Int.le_refl _

theorem trans {between : Tables} (first : Extends before between) (second : Extends between after) :
    Extends before after where
  users user known := second.users user (first.users user known)
  problems problem known := second.problems problem (first.problems problem known)
  submissions := first.submissions.trans second.submissions
  judgements := first.judgements.trans second.judgements
  cases := by
    intro row there
    rcases second.cases row there with before | new
    · exact first.cases row before
    · exact .inr (Int.lt_of_le_of_lt first.lastCase new)
  lastCase := Int.le_trans first.lastCase second.lastCase

/-- What changes neither problems nor cases. -/
theorem of_users (users : ∀ user, before.userExists user = true → after.userExists user = true)
    (problems : after.problems = before.problems) (submissions : before.submissions <+: after.submissions)
    (judgements : before.judgements <+: after.judgements) (cases : after.cases = before.cases)
    (lastCase : after.lastCase = before.lastCase) : Extends before after where
  users := users
  problems _ known := by rwa [problemExists, problems]
  submissions := submissions
  judgements := judgements
  cases _ there := .inl (cases ▸ there)
  lastCase := Int.le_of_eq lastCase.symm

theorem refers (extends_ : Extends before after) {submission user problem : Id}
    (refers : before.Refers submission user problem) : after.Refers submission user problem := by
  obtain ⟨row, there, same⟩ := refers
  exact ⟨row, extends_.submissions.mem there, same⟩

end Extends

/-! ## Adding rows -/

/-- A submission is kept only when its user and its problem are there. -/
theorem known_of_saveSubmission {submission : NewSubmission} {id : Id}
    (saved : tables.saveSubmission submission = .ok (id, after)) :
    tables.userExists submission.user = true ∧ tables.problemExists submission.problem = true := by
  unfold saveSubmission at saved
  split at saved
  · rename_i known
    exact Bool.and_eq_true_iff.mp known
  · cases saved

/-- A judgement is kept only when its submission has none yet. -/
theorem unjudged_of_saveJudgement {judgement : NewJudgement} {id : Id}
    (saved : tables.saveJudgement judgement = .ok (id, after)) :
    ∀ row ∈ tables.judgements, row.submission ≠ judgement.submission := by
  unfold saveJudgement at saved
  split at saved
  · cases saved
  · rename_i unjudged
    intro row there same
    exact unjudged (List.any_eq_true.mpr ⟨row, there, beq_iff_eq.mpr same⟩)

theorem refers_withSubmission (tables : Tables) (submission : NewSubmission) :
    (tables.withSubmission submission).Refers (tables.lastSubmission + 1) submission.user
      submission.problem :=
  ⟨_, List.mem_append_right _ (List.mem_singleton_self _), rfl, rfl, rfl⟩

theorem extends_withSubmission (tables : Tables) (submission : NewSubmission) :
    tables.Extends (tables.withSubmission submission) :=
  .of_users (fun _ => id) rfl (List.prefix_append ..) List.prefix_rfl rfl rfl

theorem extends_withJudgement (tables : Tables) (judgement : NewJudgement) :
    tables.Extends (tables.withJudgement judgement) :=
  .of_users (fun _ => id) rfl List.prefix_rfl (List.prefix_append ..) rfl rfl

theorem extends_incrementSolved (tables : Tables) (user : Id) :
    tables.Extends (tables.incrementSolved user) := by
  refine .of_users (fun other known => ?_) rfl List.prefix_rfl List.prefix_rfl rfl rfl
  rwa [userExists_incrementSolved]

namespace Integral

theorem empty : Integral {} :=
  ⟨nofun, nofun, List.nodup_nil, nofun, nofun, .nil 0, .nil 0, .nil 0⟩

theorem withSubmission (integral : tables.Integral) {submission : NewSubmission}
    (user : tables.userExists submission.user = true)
    (problem : tables.problemExists submission.problem = true) :
    (tables.withSubmission submission).Integral where
  submissions := by
    intro row there
    rcases List.mem_append.mp there with there | there
    · exact integral.submissions row there
    · obtain rfl := List.mem_singleton.mp there
      exact ⟨user, problem⟩
  judgements row there := (extends_withSubmission ..).refers (integral.judgements row there)
  judgedOnce := integral.judgedOnce
  verdicts := integral.verdicts
  languages := by
    intro row there
    rcases List.mem_append.mp there with there | there
    · exact integral.languages row there
    · obtain rfl := List.mem_singleton.mp there
      exact Option.isSome_iff_exists.mpr ⟨_, submission.language.parse?_name⟩
  submissionIds := by
    rw [Tables.withSubmission, List.map_append]
    exact integral.submissionIds.next
  judgementIds := integral.judgementIds
  caseIds := integral.caseIds

theorem withJudgement (integral : tables.Integral) {judgement : NewJudgement}
    (unjudged : ∀ row ∈ tables.judgements, row.submission ≠ judgement.submission)
    (refers : tables.Refers judgement.submission judgement.user judgement.problem) :
    (tables.withJudgement judgement).Integral where
  submissions := integral.submissions
  judgements := by
    intro row there
    rcases List.mem_append.mp there with there | there
    · exact integral.judgements row there
    · obtain rfl := List.mem_singleton.mp there
      exact refers
  judgedOnce := by
    rw [Tables.withJudgement, List.map_append]
    refine (List.perm_append_singleton ..).nodup_iff.mpr (List.nodup_cons.mpr ⟨?_, integral.judgedOnce⟩)
    intro there
    obtain ⟨row, there, same⟩ := List.mem_map.mp there
    exact unjudged row there same
  verdicts := by
    intro row there
    rcases List.mem_append.mp there with there | there
    · exact integral.verdicts row there
    · obtain rfl := List.mem_singleton.mp there
      exact Option.isSome_iff_exists.mpr ⟨_, judgement.verdict.ofCode?_code⟩
  languages := integral.languages
  submissionIds := integral.submissionIds
  judgementIds := by
    rw [Tables.withJudgement, List.map_append]
    exact integral.judgementIds.next
  caseIds := integral.caseIds

/-- Where submissions and judgements are as they were, the rows still say the same about one another. -/
theorem of_sameRows (integral : before.Integral) (same : SameRows before after)
    (extends_ : before.Extends after) (caseIds : Ascending (after.cases.map (·.id)) after.lastCase) :
    after.Integral where
  submissions := by
    rw [same.submissions]
    intro row there
    obtain ⟨user, problem⟩ := integral.submissions row there
    exact ⟨extends_.users _ user, extends_.problems _ problem⟩
  judgements := by
    rw [same.judgements]
    intro row there
    exact extends_.refers (integral.judgements row there)
  judgedOnce := by
    rw [same.judgements]
    exact integral.judgedOnce
  verdicts := by
    rw [same.judgements]
    exact integral.verdicts
  languages := by
    rw [same.submissions]
    exact integral.languages
  submissionIds := by
    rw [same.submissions, same.lastSubmission]
    exact integral.submissionIds
  judgementIds := by
    rw [same.judgements, same.lastJudgement]
    exact integral.judgementIds
  caseIds := caseIds

theorem incrementSolved (integral : tables.Integral) (user : Id) : (tables.incrementSolved user).Integral :=
  integral.of_sameRows ⟨rfl, rfl, rfl, rfl⟩ (extends_incrementSolved ..) integral.caseIds

end Integral

/-! ## Seeding -/

section

variable {read : String → Except FileFault String} {step : SeedStep}

/-- A step of a seed keeps what was there, but for cases that it drops. -/
theorem extends_of_step (done : step.perform read before = .ok after) : before.Extends after := by
  cases SeedStep.does_of_perform done with
  | renamed | enrolled =>
    exact .of_users (frame_seedUser done).users rfl List.prefix_rfl List.prefix_rfl rfl rfl
  | revised known =>
    refine ⟨fun _ => id, fun problem there => ?_, List.prefix_rfl, List.prefix_rfl, fun _ => .inl,
      Int.le_refl _⟩
    -- a row that is brought up to date keeps its number
    obtain ⟨row, mem, same⟩ := List.any_eq_true.mp there
    refine List.any_eq_true.mpr ⟨_, List.mem_map_of_mem mem, ?_⟩
    split
    · rename_i here
      rw [beq_iff_eq] at same ⊢
      exact here.symm.trans same
    · exact same
  | posed unknown =>
    refine ⟨fun _ => id, fun problem there => ?_, List.prefix_rfl, List.prefix_rfl, fun _ => .inl,
      Int.le_refl _⟩
    obtain ⟨row, mem, same⟩ := List.any_eq_true.mp there
    exact List.any_eq_true.mpr ⟨row, List.mem_append_left _ mem, same⟩
  | dropped =>
    exact ⟨fun _ => id, fun _ => id, List.prefix_rfl, List.prefix_rfl,
      fun _ there => .inl (List.mem_filter.mp there).1, Int.le_refl _⟩
  | loaded loads =>
    refine ⟨fun _ => id, fun _ => id, List.prefix_rfl, List.prefix_rfl, ?_, Int.le_add_one (Int.le_refl _)⟩
    intro row there
    rcases List.mem_append.mp there with there | there
    · exact .inl there
    · obtain rfl := List.mem_singleton.mp there
      exact .inr (Int.lt_succ _)

theorem caseIds_of_step (done : step.perform read before = .ok after)
    (ids : Ascending (before.cases.map (·.id)) before.lastCase) :
    Ascending (after.cases.map (·.id)) after.lastCase := by
  cases SeedStep.does_of_perform done with
  | renamed | enrolled | revised | posed => exact ids
  | dropped => exact ids.sublist (List.filter_sublist.map _)
  | loaded loads =>
    simp only [addCase, List.map_append]
    exact ids.next

end

section

variable {read : String → Except FileFault String} {users : List UserEntry} {problems : List ProblemEntry}

theorem extends_of_seed (done : tables.seed read users problems = .ok after) : tables.Extends after :=
  rel_of_seed Extends.refl Extends.trans (fun _ => extends_of_step) done

/-- A seed leaves what the rows say about one another. -/
theorem Integral.seed (integral : tables.Integral) (done : tables.seed read users problems = .ok after) :
    after.Integral := by
  refine integral.of_sameRows (sameRows_seed done) (extends_of_seed done) ?_
  have ids := rel_of_seed (fun _ => id) (fun first second ids => second (first ids))
    (fun _ => caseIds_of_step) done
  exact ids integral.caseIds

end

end Tables

end CodeJudge.Store
