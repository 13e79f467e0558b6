import CodeJudge.Proofs.Coordinator.Run
import CodeJudge.Proofs.Store.Integrity

/-!
# Integrity along a run

Seeds and submissions, in any order and with any faults, keep the rows of the store in agreement with one
another, and never change or take away what a submission has left.

**The law** (`referential_integrity`): wherever a run has come to, the tables are `Integral`; and beside
the tables of any later time, submissions and judgements have stayed as they were, while everything that
has been added is numbered past all that was there (`Continues`).

A judgement takes its user and its problem from the request, and so does its submission; that they agree
is carried along the stages of the submission (`Agrees`), whatever others do in between.
-/

namespace CodeJudge.Coordinator

open Store (Id Database Tables)

/-- **What is known of a submission once it is kept**: its row is there, and is about the user and the
problem that the judgement will be about. -/
def Agrees (tables : Tables) (request : Request) : Stage → Prop
  | .readCases _ submission | .readLimits _ submission _ | .dispatch submission _ =>
    tables.Refers submission request.user request.problem
  | .wait judgement _ | .findPrior judgement _ | .record judgement _ _ | .count judgement _ _ =>
    tables.Refers judgement.submission judgement.user judgement.problem
  | .findUser | .findProblem | .keep _ | .ended _ => True

variable {request : Request} {fault : Option Fault} {judged : Except Fault JobResult}
variable {stage next : Stage} {before after : Database}

theorem Agrees.extends {tables later : Tables} (agrees : Agrees tables request stage)
    (extends_ : tables.Extends later) : Agrees later request stage := by
  cases stage with
  | findUser | findProblem | keep | ended => trivial
  | _ => exact extends_.refers agrees

theorem Moves.extends (moves : Moves request fault judged before stage next after) :
    before.tables.Extends after.tables := by
  cases moves with
  | kept made saved =>
    obtain ⟨-, rfl⟩ := Tables.saveSubmission_ok saved
    exact Tables.extends_withSubmission ..
  | first made saved accepted =>
    obtain ⟨-, rfl⟩ := Tables.saveJudgement_ok saved
    exact Tables.extends_withJudgement ..
  | recorded made saved later =>
    obtain ⟨-, rfl⟩ := Tables.saveJudgement_ok saved
    exact Tables.extends_withJudgement ..
  | counted made => exact Tables.extends_incrementSolved ..
  | _ => exact .refl _

/-- Every step of a submission keeps the rows in agreement. -/
theorem Moves.integral (moves : Moves request fault judged before stage next after)
    (integral : before.tables.Integral) (agrees : Agrees before.tables request stage) :
    after.tables.Integral := by
  cases moves with
  | kept made saved =>
    obtain ⟨user, problem⟩ := Tables.known_of_saveSubmission saved
    obtain ⟨-, rfl⟩ := Tables.saveSubmission_ok saved
    exact integral.withSubmission user problem
  | first made saved accepted =>
    have unjudged := Tables.unjudged_of_saveJudgement saved
    obtain ⟨-, rfl⟩ := Tables.saveJudgement_ok saved
    exact integral.withJudgement unjudged agrees
  | recorded made saved later =>
    have unjudged := Tables.unjudged_of_saveJudgement saved
    obtain ⟨-, rfl⟩ := Tables.saveJudgement_ok saved
    exact integral.withJudgement unjudged agrees
  | counted made => exact integral.incrementSolved _
  | _ => exact integral

/-- Every step of a submission leads to a stage that the tables agree with. -/
theorem Moves.agrees (moves : Moves request fault judged before stage next after)
    (agrees : Agrees before.tables request stage) : Agrees after.tables request next := by
  have extends_ := moves.extends
  cases moves with
  | kept made saved =>
    obtain ⟨rfl, rfl⟩ := Tables.saveSubmission_ok saved
    exact Tables.refers_withSubmission before.tables (request.kept _)
  | failed | foundUser | noUser | foundProblem | noLanguage | noProblem | undelivered | recorded
    | counted | still => trivial
  | _ => exact extends_.refers agrees

/-! ## Runs -/

/-- The tables of a run are in agreement with one another and with every submission under way. -/
structure Sound (run : Run) : Prop where
  integral : run.database.tables.Integral
  agrees : ∀ active ∈ run.active, Agrees run.database.tables active.request active.stage

theorem Sound.empty : Sound {} := ⟨.empty, fun _ there => absurd there List.not_mem_nil⟩

/-- What happens next in a sound run takes nothing away, and leaves the run sound. -/
theorem Sound.follow {run later : Run} {event : Event} (sound : Sound run)
    (happened : run.next? event = some later) :
    Sound later ∧ run.database.tables.Extends later.database.tables := by
  cases Run.follows_of_next? happened with
  | came =>
    refine ⟨⟨sound.integral, ?_⟩, .refl _⟩
    intro active there
    rcases List.mem_append.mp there with there | there
    · exact sound.agrees active there
    · obtain rfl := List.mem_singleton.mp there
      trivial
  | @stepped _ _ _ active _ _ here free step moves =>
    have agrees := sound.agrees active (List.mem_of_getElem? here)
    refine ⟨⟨moves.integral sound.integral agrees, ?_⟩, moves.extends⟩
    intro other there
    rcases List.mem_or_eq_of_mem_set there with there | rfl
    · exact (sound.agrees other there).extends moves.extends
    · exact moves.agrees agrees
  | seeded done =>
    have extends_ := Tables.extends_of_seed done
    refine ⟨⟨sound.integral.seed done, ?_⟩, extends_⟩
    intro active there
    exact (sound.agrees active there).extends extends_
  | unseeded => exact ⟨sound, .refl _⟩

theorem sound_of_after? {events : List Event} {run : Run} (ran : Run.after? {} events = some run) :
    Sound run := by
  refine Run.after?_induction (motive := fun _ run => Sound run) .empty ?_ ran
  intro events run event next ran sound happened
  exact (sound.follow happened).1

theorem Sound.extends_of_after? {events : List Event} {run later : Run} (sound : Sound run)
    (ran : run.after? events = some later) :
    run.database.tables.Extends later.database.tables := by
  have both : Sound later ∧ run.database.tables.Extends later.database.tables := by
    refine foldlM_induction (motive := fun _ later =>
      Sound later ∧ run.database.tables.Extends later.database.tables) ⟨sound, .refl _⟩ ?_ ran
    rintro events between event next - ⟨soundBetween, kept⟩ happened
    obtain ⟨soundNext, more⟩ := soundBetween.follow happened
    exact ⟨soundNext, kept.trans more⟩
  exact both.2

/-- Rows of a later time beside those of an earlier one: a row was there already, or is numbered past all
that were. -/
def Newer {Row : Type} (number : Row → Id) (before after : List Row) : Prop :=
  ∀ row ∈ after, row ∈ before ∨ ∀ old ∈ before, number old < number row

/-- **What a later time has kept of an earlier one.** -/
structure Continues (before after : Tables) : Prop where
  /-- Submissions stay as they were, and others are added after them. -/
  submissions : before.submissions <+: after.submissions
  judgements : before.judgements <+: after.judgements
  newSubmissions : Newer (·.id) before.submissions after.submissions
  newJudgements : Newer (·.id) before.judgements after.judgements
  /-- The number of a case is never that of another, also when the other is gone. -/
  newCases : Newer (·.id) before.cases after.cases

/-- Where rows are numbered in order, those that follow others are newer. -/
theorem newer_of_prefix {Row : Type} {number : Row → Id} {before after : List Row}
    (part : before <+: after) (ordered : (after.map number).Pairwise (· < ·)) :
    Newer number before after := by
  obtain ⟨rest, rfl⟩ := part
  intro row there
  rcases List.mem_append.mp there with there | there
  · exact .inl there
  · refine .inr fun old mem => ?_
    exact (List.pairwise_append.mp (List.pairwise_map.mp ordered)).2.2 old mem row there

/-- **The store keeps its integrity.** Wherever seeds and submissions have led, in any order and with any
faults, the rows agree with one another; and from there on submissions and judgements stay as they are, and
everything new is numbered past all that there has been. -/
theorem referential_integrity {earlier later : List Event} {first last : Run}
    (began : Run.after? {} earlier = some first) (ran : first.after? later = some last) :
    first.database.tables.Integral ∧ Continues first.database.tables last.database.tables := by
  have sound := sound_of_after? began
  have extends_ := sound.extends_of_after? ran
  have whole : Run.after? {} (earlier ++ later) = some last := by
    rw [Run.after?, List.foldlM_append, ← Run.after?, began]
    exact ran
  have integral := (sound_of_after? whole).integral
  refine ⟨sound.integral, extends_.submissions, extends_.judgements,
    newer_of_prefix extends_.submissions integral.submissionIds.ordered,
    newer_of_prefix extends_.judgements integral.judgementIds.ordered, ?_⟩
  intro row there
  rcases extends_.cases row there with here | new
  · exact .inl here
  · refine .inr fun old mem => ?_
    exact Int.lt_of_le_of_lt (sound.integral.caseIds.bounded old.id (List.mem_map_of_mem mem)) new

/-- A submission is judged, and then the cases of its problem are replaced. -/
def judging : List Event :=
  .seed (fun _ => .ok "") [⟨1, "a"⟩] [⟨7, "b", 1000, 65536, [{ input := some "1" }]⟩] ::
    .come ⟨⟨1, 7, "go", "package main"⟩, "2026-01-01 00:00:00"⟩ ::
    List.replicate 10 (.step 0 none (.ok ⟨1, .accepted, 1, 1, 0, 0, none⟩))

def replacing : List Event :=
  [.seed (fun _ => .ok "") [⟨1, "c"⟩] [⟨7, "b", 1000, 65536, [{ input := some "2" }]⟩]]

def judgedOnce : Run := (Run.after? {} judging).getD {}

def replaced : Run := (judgedOnce.after? replacing).getD {}

theorem referential_integrity_replaced :
    judgedOnce.database.tables.judgements.length = 1 ∧
      judgedOnce.database.tables.cases.map (·.id) = [1] ∧ replaced.database.tables.cases.map (·.id) = [2] ∧
      judgedOnce.database.tables.Integral ∧ Continues judgedOnce.database.tables replaced.database.tables := by
  have began : Run.after? {} judging = some judgedOnce := rfl
  have ran : judgedOnce.after? replacing = some replaced := rfl
  exact ⟨by decide, by decide, by decide, referential_integrity began ran⟩

end CodeJudge.Coordinator
