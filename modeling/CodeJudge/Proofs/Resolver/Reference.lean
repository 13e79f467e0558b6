import CodeJudge.Proofs.Resolver.Clock
import Mathlib.Data.List.Fold
import Mathlib.Data.List.MinMax
import Mathlib.Data.List.Perm.Basic
import Mathlib.Order.Nat

/-!
# What the race computes

Under a clock the race has one answer, and this module writes it down without a race: the **reference**
looks at a script as a whole. The verdict falls at the least of three times, those at which the budget
elapses, the first case fails, and the last of cases that all pass has passed; passes count when they
come no later.

**The law** (`timed_eq_reference`): when no two of the times are equal, the race gives the reference.
The race is stopped by the first event that lets the resolver decide (`race_stops`), and of the sorted
events that one has the least of the three times.

**What it does not establish.** Which of two events at one time comes first.
-/

namespace CodeJudge.Resolver

open Sandbox (Report)

/-! ## The reference -/

/-- The cases of a script that finish: when, and how. -/
def finishing (script : Script) : List (Nanos × Finish) := script.filterMap id

/-- The report of a pass. -/
def Finish.pass? : Finish → Option Report
  | .ok report => if report.outcome = .pass then some report else none
  | .error _ => none

/-- The passes among finished cases, with their times. -/
def passesAmong (ends : List (Nanos × Finish)) : List (Nanos × Report) :=
  ends.filterMap fun entry => entry.2.pass?.map (entry.1, ·)

/-- The failures among finished cases, with their times. -/
def failuresAmong (ends : List (Nanos × Finish)) : List (Nanos × Finish) :=
  ends.filter fun entry => !entry.2.passes

/-- The cases of a script that pass. -/
def passing (script : Script) : List (Nanos × Report) := passesAmong (finishing script)

/-- The cases of a script that fail. -/
def failing (script : Script) : List (Nanos × Finish) := failuresAmong (finishing script)

/-- The time at which the last case passes, when every case does. -/
def lastPass? (script : Script) : Option Nanos :=
  if (passing script).length = script.length then some (((passing script).map (·.1)).foldr max 0)
  else none

/-- **When the verdict falls**: the least of the budget, the times at which cases fail, and the time at
which the last of cases that all pass has passed. -/
def verdictTime (script : Script) (budget : Nanos) : Nanos :=
  ((failing script).map (·.1) ++ (lastPass? script).toList).foldr min budget

/-- The failing case that decides when the verdict falls at a time. -/
def decider? (script : Script) (time : Nanos) : Option Finish :=
  ((failing script).find? (·.1 = time)).map (·.2)

/-- The reports of the cases that have passed by a time. -/
def passedBy (script : Script) (time : Nanos) : List Report :=
  ((passing script).filter (·.1 ≤ time)).map (·.2)

/-- The longest time among reports. -/
def longest (reports : List Report) : Nanos := (reports.map Report.elapsed).foldr max 0

/-- The largest growth of memory among reports, and no less than zero. -/
def largest (reports : List Report) : Int := (reports.map Report.memory).foldr max 0

/-- **The reference**: the answer to a script under a budget. The measurements are the largest among the
passes that count and the report of the case that decides, if it has one. -/
def reference (script : Script) (budget : Nanos) : Resolution :=
  let time := verdictTime script budget
  let decider := decider? script time
  let measured : List Report := passedBy script time ++ (decider.bind Except.toOption).toList
  { verdict :=
      match decider with
      | some how => how.verdict
      | none => if time = budget then .timeLimitExceeded else .accepted
    passed := (passedBy script time).length
    total := script.length
    runtime := min (longest measured).milliseconds greatest
    memory := (Decimal.uint32.clamp (largest measured)).toNat
    output := decider.elim "" Finish.output }

/-! ## Finished cases -/

theorem Finish.pass?_of_passes {report : Report} (passed : report.outcome = .pass) :
    Finish.pass? (.ok report) = some report := if_pos passed

theorem Finish.pass?_of_fails {how : Finish} (fails : how.passes = false) : how.pass? = none := by
  cases how with
  | error text => rfl
  | ok report => exact if_neg (of_decide_eq_false fails)

theorem passesAmong_append (first second : List (Nanos × Finish)) :
    passesAmong (first ++ second) = passesAmong first ++ passesAmong second :=
  List.filterMap_append ..

theorem failuresAmong_append (first second : List (Nanos × Finish)) :
    failuresAmong (first ++ second) = failuresAmong first ++ failuresAmong second :=
  List.filter_append ..

/-- Every finish is a pass or a failure. -/
theorem length_passesAmong_add (ends : List (Nanos × Finish)) :
    (passesAmong ends).length + (failuresAmong ends).length = ends.length := by
  induction ends with
  | nil => rfl
  | cons entry rest ih =>
    obtain ⟨time, how⟩ := entry
    simp only [passesAmong, failuresAmong, List.filterMap_cons, List.filter_cons, List.length_cons]
      at ih ⊢
    cases passes : how.passes with
    | false =>
      simp only [Finish.pass?_of_fails passes, Option.map_none, Bool.not_false, ↓reduceIte,
        List.length_cons]
      omega
    | true =>
      obtain ⟨report, rfl, passed⟩ := Finish.exists_of_passes passes
      simp only [Finish.pass?_of_passes passed, Option.map_some, Bool.not_true, Bool.false_eq_true,
        ↓reduceIte, List.length_cons]
      omega

/-- No more cases finish than a script has. -/
theorem length_finishing_le (script : Script) : (finishing script).length ≤ script.length :=
  List.length_filterMap_le ..

/-- A passing case has its time among the times of the finished. -/
theorem mem_of_mem_passesAmong {ends : List (Nanos × Finish)} {time : Nanos} {report : Report}
    (mem : (time, report) ∈ passesAmong ends) : time ∈ ends.map (·.1) := by
  obtain ⟨⟨at_, how⟩, finished, passed⟩ := List.mem_filterMap.mp mem
  obtain ⟨_, _, eq⟩ := Option.map_eq_some_iff.mp passed
  cases eq
  exact List.mem_map.mpr ⟨_, finished, rfl⟩

/-! ## The events of a script -/

/-- How a step finishes a case. -/
def Step.finish? : Step → Option Finish
  | .finish _ how => some how
  | _ => none

/-- The cases that finish among events: when, and how. -/
def finished (events : List (Nanos × Step)) : List (Nanos × Finish) :=
  events.filterMap fun event => event.2.finish?.map (event.1, ·)

theorem Step.finish?_finish (index : Nat) (how : Finish) :
    (Step.finish index how).finish? = some how := rfl

theorem finished_append (first second : List (Nanos × Step)) :
    finished (first ++ second) = finished first ++ finished second := List.filterMap_append ..

/-- The events of the cases are their finishes. -/
theorem finished_finishes (script : Script) (index : Nat) :
    finished (finishes index script) = finishing script := by
  induction script generalizing index with
  | nil => rfl
  | cons case rest ih =>
    cases case with
    | none => exact ih (index + 1)
    | some entry =>
      simp only [finishes, finished, finishing, List.filterMap_cons, Step.finish?, Option.map_some,
        id] at ih ⊢
      rw [ih (index + 1)]

/-- The cases are numbered in their order. -/
theorem indices_finishes (script : Script) (index : Nat) :
    (indices (finishes index script)).Sublist (List.range' index script.length) := by
  induction script generalizing index with
  | nil => exact .slnil
  | cons case rest ih =>
    rw [List.length_cons, List.range'_succ]
    cases case with
    | none => exact (ih (index + 1)).cons index
    | some entry => exact (ih (index + 1)).cons_cons index

/-- The events of the cases are finishes. -/
theorem kind_of_mem_finishes {script : Script} {index : Nat} {event : Nanos × Step}
    (mem : event ∈ finishes index script) : ∃ index how, event.2 = .finish index how := by
  induction script generalizing index with
  | nil => cases mem
  | cons case rest ih =>
    cases case with
    | none => exact ih mem
    | some entry =>
      rcases List.mem_cons.mp mem with rfl | mem
      · exact ⟨index, entry.2, rfl⟩
      · exact ih mem

/-- What happens, in any order. -/
theorem events_perm (script : Script) (budget : Nanos) :
    (events script budget).Perm (finishes 0 script ++ [(budget, .ring)]) :=
  List.mergeSort_perm ..

/-- The budget elapses under every clock. -/
theorem ring_mem_events (script : Script) (budget : Nanos) :
    (budget, Step.ring) ∈ events script budget :=
  (events_perm script budget).mem_iff.mpr (List.mem_append_right _ (List.mem_singleton_self _))

/-- What happens comes in the order of the times. -/
theorem events_sorted (script : Script) (budget : Nanos) :
    (events script budget).Pairwise fun a b => a.1 ≤ b.1 := by
  have sorted : (events script budget).Pairwise fun a b => decide (a.1 ≤ b.1) = true :=
    List.pairwise_mergeSort
      (fun a b c => by simp only [decide_eq_true_eq]; exact Nat.le_trans)
      (fun a b => by simp only [Bool.or_eq_true, decide_eq_true_eq]; exact Nat.le_total ..) _
  exact sorted.imp of_decide_eq_true

/-- The cases that finish among the events of a script are those of the script. -/
theorem finished_events (script : Script) (budget : Nanos) :
    (finished (events script budget)).Perm (finishing script) := by
  have perm : (finished (events script budget)).Perm
      (finished (finishes 0 script ++ [(budget, .ring)])) := (events_perm script budget).filterMap _
  rw [finished_append, finished_finishes] at perm
  simpa only [finished, List.filterMap_cons, Step.finish?, Option.map_none, List.filterMap_nil,
    List.append_nil] using perm

/-- The times of the events are those of the cases, and the budget. -/
theorem times_events (script : Script) (budget : Nanos) :
    ((events script budget).map (·.1)).Perm (budget :: (finishing script).map (·.1)) := by
  have times (index : Nat) : (finishes index script).map (·.1) = (finishing script).map (·.1) := by
    induction script generalizing index with
    | nil => rfl
    | cons case rest ih =>
      cases case with
      | none => exact ih (index + 1)
      | some entry => exact congrArg (entry.1 :: ·) (ih (index + 1))
  have perm := (events_perm script budget).map (·.1)
  rw [List.map_append, times] at perm
  exact perm.trans (List.perm_append_singleton ..)

/-- The events of a script can all be met by a race that starts. -/
theorem pending_events (script : Script) (budget : Nanos) :
    Pending script.length {} (events script budget) := by
  have perm : (indices (events script budget)).Perm (indices (finishes 0 script)) := by
    have perm : (indices (events script budget)).Perm
        (indices (finishes 0 script ++ [(budget, .ring)])) := (events_perm script budget).filterMap _
    simpa only [indices, List.filterMap_append, List.filterMap_cons, Step.index?,
      List.filterMap_nil, List.append_nil] using perm
  have sublist := indices_finishes script 0
  refine ⟨fun event mem => ?_, ?_, fun index mem => ?_⟩
  · rcases List.mem_append.mp ((events_perm script budget).mem_iff.mp mem) with mem | mem
    · exact .inr (kind_of_mem_finishes mem)
    · exact .inl (congrArg (·.2) (List.mem_singleton.mp mem))
  · exact perm.nodup_iff.mpr (sublist.nodup List.nodup_range')
  · have range := sublist.subset (perm.mem_iff.mp mem)
    rw [List.mem_range'_1] at range
    exact ⟨by omega, List.not_mem_nil⟩

/-! ## Where the race stops -/

/-- The passes that a race tallies are those of its finished cases. -/
theorem reports_passedIn (events : List (Nanos × Step)) :
    (passedIn (events.map (·.2))).map (·.2) = (passesAmong (finished events)).map (·.2) := by
  induction events with
  | nil => rfl
  | cons event rest ih =>
    obtain ⟨time, step⟩ := event
    simp only [passedIn, passesAmong, finished, List.map_cons, List.filterMap_cons] at ih ⊢
    cases step with
    | finish index how =>
      simp only [Step.finish?_finish, Option.map_some, List.filterMap_cons]
      cases passes : how.passes with
      | false =>
        simp only [Step.pass?_finish_fail passes, Finish.pass?_of_fails passes, Option.map_none, ih]
      | true =>
        obtain ⟨report, rfl, passed⟩ := Finish.exists_of_passes passes
        simp only [Step.pass?_finish_pass passed, Finish.pass?_of_passes passed, Option.map_some,
          List.map_cons, ih]
    | _ => exact ih

/-- A step that brings a pass is the finish of a passing case. -/
theorem Step.exists_of_pass? {step : Step} (passes : step.pass?.isSome) :
    ∃ index report, step = .finish index (.ok report) ∧ report.outcome = .pass := by
  unfold Step.pass? at passes
  split at passes
  · rename_i index report
    split at passes
    · rename_i passed
      exact ⟨index, report, rfl, passed⟩
    · cases passes
  · cases passes

/-- **The events of a script, cut at the event where the race stops**: passes before it, and no two
events at one time. -/
structure Stopped (script : Script) (budget : Nanos) (done : List (Nanos × Step)) (time : Nanos)
    (step : Step) (rest : List (Nanos × Step)) : Prop where
  split : events script budget = done ++ (time, step) :: rest
  quiet : ∀ event ∈ done, event.2.pass?.isSome
  distinct : (budget :: (finishing script).map (·.1)).Nodup

namespace Stopped

variable {script : Script} {budget : Nanos} {done : List (Nanos × Step)} {time : Nanos} {step : Step}
  {rest : List (Nanos × Step)}

/-- Of two events the one that comes first has the smaller time. -/
theorem ordered (stopped : Stopped script budget done time step rest) :
    (done ++ (time, step) :: rest).Pairwise fun a b => a.1 < b.1 := by
  have sorted := events_sorted script budget
  have apart := List.pairwise_map.mp
    ((times_events script budget).nodup_iff.mpr stopped.distinct)
  rw [stopped.split] at sorted apart
  exact sorted.imp₂ (fun _ _ le ne => Nat.lt_of_le_of_ne le ne) apart

theorem before (stopped : Stopped script budget done time step rest) {event : Nanos × Step}
    (mem : event ∈ done) : event.1 < time :=
  (List.pairwise_append.mp stopped.ordered).2.2 event mem _ List.mem_cons_self

theorem after (stopped : Stopped script budget done time step rest) {event : Nanos × Step}
    (mem : event ∈ rest) : time < event.1 :=
  (List.pairwise_cons.mp (List.pairwise_append.mp stopped.ordered).2.1).1 event mem

/-- A case that finishes among events does so at the time of one of them. -/
theorem mem_of_mem_finished {events : List (Nanos × Step)} {entry : Nanos × Finish}
    (mem : entry ∈ finished events) : ∃ event ∈ events, event.1 = entry.1 := by
  obtain ⟨event, here, eq⟩ := List.mem_filterMap.mp mem
  obtain ⟨_, _, rfl⟩ := Option.map_eq_some_iff.mp eq
  exact ⟨event, here, rfl⟩

/-- The cases of the script are those before the stop, the one at it, and those after it. -/
theorem finishing_perm (stopped : Stopped script budget done time step rest) :
    (finishing script).Perm (finished (done ++ [(time, step)]) ++ finished rest) := by
  have perm := finished_events script budget
  rw [stopped.split, ← List.singleton_append, ← List.append_assoc, finished_append] at perm
  exact perm.symm

/-- No case finishes after the stop and by its time. -/
theorem late (stopped : Stopped script budget done time step rest) {at_ : Nanos}
    (mem : at_ ∈ (finished rest).map (·.1)) : time < at_ := by
  obtain ⟨entry, finished, rfl⟩ := List.mem_map.mp mem
  obtain ⟨event, here, eq⟩ := mem_of_mem_finished finished
  exact eq ▸ stopped.after here

/-- Every case up to the stop has finished by its time. -/
theorem early (stopped : Stopped script budget done time step rest) {at_ : Nanos}
    (mem : at_ ∈ (finished (done ++ [(time, step)])).map (·.1)) : at_ ≤ time := by
  obtain ⟨entry, finished, rfl⟩ := List.mem_map.mp mem
  obtain ⟨event, here, eq⟩ := mem_of_mem_finished finished
  rw [← eq]
  rcases List.mem_append.mp here with here | here
  · exact Nat.le_of_lt (stopped.before here)
  · rw [List.mem_singleton.mp here]

/-- The cases that pass do so up to the stop or after it. -/
theorem passing_split (stopped : Stopped script budget done time step rest) :
    (passing script).Perm
      (passesAmong (finished (done ++ [(time, step)])) ++ passesAmong (finished rest)) := by
  rw [← passesAmong_append]
  exact stopped.finishing_perm.filterMap _

/-- The passes that count at the time of the stop are those up to the stop. -/
theorem passing_perm (stopped : Stopped script budget done time step rest) :
    ((passing script).filter (·.1 ≤ time)).Perm (passesAmong (finished (done ++ [(time, step)]))) := by
  have inside : ∀ pass ∈ passesAmong (finished (done ++ [(time, step)])), pass.1 ≤ time :=
    fun pass mem => stopped.early (mem_of_mem_passesAmong mem)
  have outside : ∀ pass ∈ passesAmong (finished rest), ¬ pass.1 ≤ time := fun pass mem =>
    Nat.not_le.mpr (stopped.late (mem_of_mem_passesAmong mem))
  have all : (passesAmong (finished (done ++ [(time, step)]))).filter (·.1 ≤ time) =
      passesAmong (finished (done ++ [(time, step)])) :=
    List.filter_eq_self.mpr (by simpa only [decide_eq_true_eq] using inside)
  have none : (passesAmong (finished rest)).filter (·.1 ≤ time) = [] :=
    List.filter_eq_nil_iff.mpr (by simpa only [decide_eq_true_eq] using outside)
  have cut := stopped.passing_split.filter (·.1 ≤ time)
  rw [List.filter_append, all, none, List.append_nil] at cut
  exact cut

/-- Before the stop every case has passed. -/
theorem failuresAmong_done (stopped : Stopped script budget done time step rest) :
    failuresAmong (finished done) = [] := by
  refine List.filter_eq_nil_iff.mpr fun entry mem => ?_
  obtain ⟨event, here, eq⟩ := List.mem_filterMap.mp mem
  obtain ⟨index, report, is, passed⟩ := Step.exists_of_pass? (stopped.quiet event here)
  rw [is] at eq
  cases eq
  simp only [Finish.passes, passed, decide_true, Bool.not_true, Bool.false_eq_true,
    not_false_eq_true]

/-- Before the stop every event is a finish. -/
theorem length_finished_done (stopped : Stopped script budget done time step rest) :
    (finished done).length = done.length := by
  have quiet := stopped.quiet
  clear stopped
  induction done with
  | nil => rfl
  | cons event others ih =>
    obtain ⟨index, report, is, -⟩ := Step.exists_of_pass? (quiet event List.mem_cons_self)
    have tail := ih fun event mem => quiet event (List.mem_cons_of_mem _ mem)
    simp only [finished, List.filterMap_cons, is, Step.finish?_finish, Option.map_some,
      List.length_cons] at tail ⊢
    rw [tail]

/-- Before the stop as many cases have passed as there are events. -/
theorem length_passesAmong_done (stopped : Stopped script budget done time step rest) :
    (passesAmong (finished done)).length = done.length := by
  have count := length_passesAmong_add (finished done)
  rw [stopped.failuresAmong_done, stopped.length_finished_done] at count
  exact count

/-- The cases that fail do so at the stop or after it. -/
theorem failing_perm (stopped : Stopped script budget done time step rest) :
    (failing script).Perm
      (failuresAmong (finished [(time, step)]) ++ failuresAmong (finished rest)) := by
  have perm : (failing script).Perm
      (failuresAmong (finished (done ++ [(time, step)]) ++ finished rest)) :=
    stopped.finishing_perm.filter _
  rw [failuresAmong_append, finished_append, failuresAmong_append, stopped.failuresAmong_done,
    List.nil_append] at perm
  exact perm

/-- No case fails before the stop. -/
theorem le_of_mem_failing (stopped : Stopped script budget done time step rest)
    {entry : Nanos × Finish} (mem : entry ∈ failing script) : time ≤ entry.1 := by
  rcases List.mem_append.mp (stopped.failing_perm.mem_iff.mp mem) with mem | mem
  · obtain ⟨event, here, eq⟩ := mem_of_mem_finished (List.mem_of_mem_filter mem)
    rw [← eq, List.mem_singleton.mp here]
  · exact Nat.le_of_lt
      (stopped.late (List.mem_map.mpr ⟨entry, List.mem_of_mem_filter mem, rfl⟩))

/-- The budget does not elapse before the stop. -/
theorem le_budget (stopped : Stopped script budget done time step rest) : time ≤ budget := by
  have rings : (budget, Step.ring) ∈ events script budget :=
    (events_perm script budget).mem_iff.mpr
      (List.mem_append_right _ (List.mem_singleton_self _))
  rw [stopped.split] at rings
  rcases List.mem_append.mp rings with mem | mem
  · exact absurd (stopped.quiet _ mem) (by simp only [Step.pass?, Option.isSome_none,
      Bool.false_eq_true, not_false_eq_true])
  · rcases List.mem_cons.mp mem with eq | mem
    · cases eq
      exact Nat.le_refl _
    · exact Nat.le_of_lt (stopped.after mem)

/-- How many cases pass up to the stop and after it. -/
theorem length_passing (stopped : Stopped script budget done time step rest) :
    (passing script).length =
      done.length + (passesAmong (finished [(time, step)])).length +
        (passesAmong (finished rest)).length := by
  rw [stopped.passing_split.length_eq, finished_append, passesAmong_append, List.length_append,
    List.length_append, stopped.length_passesAmong_done]

/-- A case that passes after the stop does so later than it. -/
theorem lt_of_length_passing (stopped : Stopped script budget done time step rest)
    (more : 0 < (passesAmong (finished rest)).length) :
    ∃ pass ∈ passing script, time < pass.1 := by
  obtain ⟨pass, mem⟩ := List.exists_mem_of_length_pos more
  exact ⟨pass, stopped.passing_split.mem_iff.mpr (List.mem_append_right _ mem),
    stopped.late (mem_of_mem_passesAmong mem)⟩

end Stopped

/-- Passes and failures together are no more than the cases. -/
theorem length_passing_add_le (script : Script) :
    (passing script).length + (failing script).length ≤ script.length := by
  have count := length_passesAmong_add (finishing script)
  have bound := length_finishing_le script
  simp only [passing, failing]
  omega

/-! ## When the verdict falls -/

/-- The least of some times. -/
theorem foldr_min_eq {times : List Nanos} {time budget : Nanos}
    (mem : time = budget ∨ time ∈ times) (le : time ≤ budget) (least : ∀ other ∈ times, time ≤ other) :
    times.foldr min budget = time := by
  apply Nat.le_antisymm
  · rcases mem with rfl | mem
    · clear least le
      induction times with
      | nil => exact Nat.le_refl _
      | cons head tail ih => exact Nat.le_trans (Nat.min_le_right _ _) ih
    · exact List.min_le_of_le' budget mem (Nat.le_refl _)
  · clear mem
    induction times with
    | nil => exact le
    | cons head tail ih =>
      exact Nat.le_min.mpr ⟨least head List.mem_cons_self,
        ih fun other mem => least other (List.mem_cons_of_mem _ mem)⟩

namespace Stopped

variable {script : Script} {budget : Nanos} {done : List (Nanos × Step)} {time : Nanos}
  {rest : List (Nanos × Step)}

/-- The verdict falls at the stop, if the stop has one of the times of which the least counts, and the
last of all passes is not earlier. -/
theorem verdictTime_eq {step : Step} (stopped : Stopped script budget done time step rest)
    (mem : time = budget ∨ time ∈ (failing script).map (·.1) ∨ lastPass? script = some time)
    (last : ∀ other, lastPass? script = some other → time ≤ other) :
    verdictTime script budget = time := by
  refine foldr_min_eq ?_ stopped.le_budget fun other here => ?_
  · rcases mem with eq | mem | eq
    · exact .inl eq
    · exact .inr (List.mem_append_left _ mem)
    · exact .inr (List.mem_append_right _ (Option.mem_toList.mpr eq))
  · rcases List.mem_append.mp here with here | here
    · obtain ⟨entry, fails, rfl⟩ := List.mem_map.mp here
      exact stopped.le_of_mem_failing fails
    · exact last other (Option.mem_toList.mp here)

/-- The failures at a failing stop are that of its case. -/
theorem mem_failing {index : Nat} {how : Finish} (fails : how.passes = false)
    (stopped : Stopped script budget done time (.finish index how) rest) :
    (time, how) ∈ failing script := by
  refine stopped.failing_perm.mem_iff.mpr (List.mem_append_left _ ?_)
  exact List.mem_filter.mpr ⟨List.mem_singleton_self _, by rw [fails]; rfl⟩

/-- The verdict falls when the case fails that stops the race. -/
theorem verdictTime_failed {index : Nat} {how : Finish} (fails : how.passes = false)
    (stopped : Stopped script budget done time (.finish index how) rest) :
    verdictTime script budget = time := by
  have mem := stopped.mem_failing fails
  refine stopped.verdictTime_eq (.inr (.inl (List.mem_map.mpr ⟨_, mem, rfl⟩))) fun other last => ?_
  have bound := length_passing_add_le script
  have some := List.length_pos_of_mem mem
  simp only [lastPass?] at last
  split at last
  · omega
  · cases last

/-- The timer rings when the budget elapses. -/
theorem eq_budget (stopped : Stopped script budget done time .ring rest) : time = budget := by
  have here : (time, Step.ring) ∈ finishes 0 script ++ [(budget, .ring)] :=
    (events_perm script budget).mem_iff.mp (by
      rw [stopped.split]
      exact List.mem_append_right _ List.mem_cons_self)
  rcases List.mem_append.mp here with mem | mem
  · obtain ⟨_, _, eq⟩ := kind_of_mem_finishes mem
    cases eq
  · exact congrArg (·.1) (List.mem_singleton.mp mem)

/-- The verdict falls when the budget elapses that stops the race. -/
theorem verdictTime_ring (missing : done.length < script.length)
    (stopped : Stopped script budget done time .ring rest) : time = budget ∧
      verdictTime script budget = time := by
  have now := stopped.eq_budget
  refine ⟨now, stopped.verdictTime_eq (.inl now) fun other last => ?_⟩
  simp only [lastPass?] at last
  split at last
  · rename_i all
    cases last
    have none : passesAmong (finished [(time, Step.ring)]) = [] := rfl
    have count := stopped.length_passing
    rw [none, List.length_nil] at count
    obtain ⟨pass, mem, later⟩ := stopped.lt_of_length_passing (by omega)
    exact List.le_max_of_le' 0 (List.mem_map.mpr ⟨pass, mem, rfl⟩) (Nat.le_of_lt later)
  · cases last

/-- The verdict falls when the last of all cases passes. -/
theorem verdictTime_last {index : Nat} {report : Report} (passed : report.outcome = .pass)
    (full : done.length + 1 = script.length)
    (stopped : Stopped script budget done time (.finish index (.ok report)) rest) :
    verdictTime script budget = time := by
  have one : passesAmong (finished [(time, .finish index (.ok report))]) = [(time, report)] := by
    simp only [finished, passesAmong, List.filterMap_cons, Step.finish?_finish, Option.map_some,
      List.filterMap_nil, Finish.pass?_of_passes passed]
  have count := stopped.length_passing
  have bound := length_passing_add_le script
  rw [one, List.length_singleton] at count
  have none : passesAmong (finished rest) = [] := List.eq_nil_of_length_eq_zero (by omega)
  have perm := stopped.passing_split
  rw [none, List.append_nil] at perm
  have here : time ∈ (passing script).map (·.1) := by
    refine List.mem_map.mpr ⟨(time, report), perm.mem_iff.mpr ?_, rfl⟩
    rw [finished_append, passesAmong_append, one]
    exact List.mem_append_right _ (List.mem_singleton_self _)
  have last : lastPass? script = some time := by
    simp only [lastPass?, show (passing script).length = script.length by omega, ↓reduceIte,
      Option.some.injEq]
    apply Nat.le_antisymm
    · refine List.max_le_of_forall_le ((passing script).map (·.1)) time fun other mem => ?_
      obtain ⟨pass, inside, rfl⟩ := List.mem_map.mp mem
      exact stopped.early (mem_of_mem_passesAmong (perm.mem_iff.mp inside))
    · exact List.le_max_of_le' 0 here (Nat.le_refl _)
  refine stopped.verdictTime_eq (.inr (.inr last)) fun other eq => ?_
  rw [last] at eq
  cases eq
  exact Nat.le_refl _

/-- When a case fails at the stop, it decides. -/
theorem decider?_failed {index : Nat} {how : Finish} (fails : how.passes = false)
    (stopped : Stopped script budget done time (.finish index how) rest) :
    decider? script time = some how := by
  have mem := stopped.mem_failing fails
  have times : ((failing script).map (·.1)).Nodup :=
    (List.nodup_cons.mp stopped.distinct).2.sublist (List.filter_sublist.map _)
  have found : ((failing script).find? (·.1 = time)).isSome :=
    List.find?_isSome.mpr ⟨_, mem, decide_eq_true rfl⟩
  obtain ⟨entry, found⟩ := Option.isSome_iff_exists.mp found
  have now : entry.1 = time := by simpa only [decide_eq_true_eq] using List.find?_some found
  have same : entry = (time, how) :=
    List.inj_on_of_nodup_map times (List.mem_of_find?_eq_some found) mem now
  rw [decider?, found, same, Option.map_some]

/-- When no case fails at the stop, none decides. -/
theorem decider?_other {step : Step} (stopped : Stopped script budget done time step rest)
    (other : failuresAmong (finished [(time, step)]) = []) : decider? script time = none := by
  refine Option.map_eq_none_iff.mpr (List.find?_eq_none.mpr fun entry mem now => ?_)
  have perm := stopped.failing_perm
  rw [other, List.nil_append] at perm
  have later := stopped.late (List.mem_map.mpr
    ⟨entry, List.mem_of_mem_filter (perm.mem_iff.mp mem), rfl⟩)
  exact Nat.ne_of_gt later (of_decide_eq_true now)

/-- The budget does not elapse when a case finishes. -/
theorem ne_budget {index : Nat} {how : Finish}
    (stopped : Stopped script budget done time (.finish index how) rest) : time ≠ budget := by
  have here : (time, how) ∈ finishing script := by
    refine stopped.finishing_perm.mem_iff.mpr (List.mem_append_left _ ?_)
    rw [finished_append]
    exact List.mem_append_right _ (List.mem_singleton_self _)
  rintro rfl
  exact (List.nodup_cons.mp stopped.distinct).1 (List.mem_map.mpr ⟨_, here, rfl⟩)

/-- As many passes count at the stop as there are before it, and at it. -/
theorem length_passedBy {step : Step} (stopped : Stopped script budget done time step rest) :
    (passedBy script time).length =
      done.length + (passesAmong (finished [(time, step)])).length := by
  rw [passedBy, List.length_map, stopped.passing_perm.length_eq, finished_append,
    passesAmong_append, List.length_append, stopped.length_passesAmong_done]

end Stopped

/-! ## What was measured -/

theorem foldl_record (reports : List Report) (tally : Tally) :
    reports.foldl Tally.record tally =
      { passed := tally.passed + reports.length
        elapsed := (reports.map Report.elapsed).foldl max tally.elapsed
        memory := (reports.map Report.memory).foldl max tally.memory } := by
  induction reports generalizing tally with
  | nil => rfl
  | cons report rest ih =>
    rw [List.foldl_cons, ih]
    simp only [Tally.record, List.length_cons, List.map_cons, List.foldl_cons, Tally.mk.injEq,
      and_self, and_true]
    omega

/-- A tally from nothing holds the count and the largest measurements of its reports. -/
theorem tally_eq (reports : List Report) :
    reports.foldl Tally.record {} = ⟨reports.length, longest reports, largest reports⟩ := by
  rw [foldl_record, List.foldl_eq_foldr, List.foldl_eq_foldr]
  simp only [Nat.zero_add]
  rfl

theorem longest_append_singleton (reports : List Report) (report : Report) :
    longest (reports ++ [report]) = max (longest reports) report.elapsed := by
  simp only [longest, ← List.foldl_eq_foldr, List.map_append, List.foldl_append, List.map_cons,
    List.map_nil, List.foldl_cons, List.foldl_nil]

theorem largest_append_singleton (reports : List Report) (report : Report) :
    largest (reports ++ [report]) = max (largest reports) report.memory := by
  simp only [largest, ← List.foldl_eq_foldr, List.map_append, List.foldl_append, List.map_cons,
    List.map_nil, List.foldl_cons, List.foldl_nil]

/-- The tally at the stop is that of the passes that count. -/
theorem Stopped.tallied_eq {script : Script} {budget : Nanos} {done : List (Nanos × Step)}
    {time : Nanos} {step : Step} {rest : List (Nanos × Step)}
    (stopped : Stopped script budget done time step rest) :
    tallied {} (done ++ [(time, step)]) =
      ⟨(passedBy script time).length, longest (passedBy script time),
        largest (passedBy script time)⟩ := by
  have perm : (passedBy script time).Perm
      ((passesAmong (finished (done ++ [(time, step)]))).map (·.2)) := stopped.passing_perm.map _
  have long : longest (passedBy script time) = longest _ := (perm.map _).foldr_op_eq
  have large : largest (passedBy script time) = largest _ := (perm.map _).foldr_op_eq
  rw [tallied, reports_passedIn, tally_eq, perm.length_eq, long, large]

/-! ## The law -/

/-- **Under a clock the race gives the reference**, and gives it at the time at which the verdict falls:
for every script with at least one case and no more than can be counted, when no two of its times
and the budget are equal. -/
theorem timed_eq_reference {script : Script} {budget : Nanos} (nonempty : script ≠ [])
    (few : script.length < 2 ^ 32) (distinct : (budget :: (finishing script).map (·.1)).Nodup) :
    timed script budget = (verdictTime script budget, reference script budget) := by
  have length : 0 < script.length := List.length_pos_iff.mpr nonempty
  have count : counted script.length = script.length := counted_of_lt few
  obtain ⟨done, time, step, rest, decision, last, stops⟩ :=
    race_split few .start (pending_events script budget) length
      ⟨budget, ring_mem_events script budget⟩
  have stopped : Stopped script budget done time step rest := ⟨stops.split, stops.quiet, distinct⟩
  have answer : timed script budget =
      (time, resolution script.length decision (tallied {} (done ++ [(time, step)]))) := by
    simp only [timed, count, Nat.ne_of_gt length, ↓reduceIte, stops.raced, stops.answered,
      Option.getD_some]
  have missing := stops.missing
  have decides := stops.decides
  simp only [Nat.zero_add] at missing decides
  rw [answer, stopped.tallied_eq]
  cases decides with
  | failed fails =>
    rename_i index how
    have falls := stopped.verdictTime_failed fails
    simp only [reference, falls, stopped.decider?_failed fails, Prod.mk.injEq, true_and]
    cases how with
    | error text =>
      simp only [resolution, Finish.failure, Except.toOption, Option.bind_some, Option.toList_none,
        List.append_nil, Option.elim_some]
    | ok report =>
      simp only [resolution, Finish.failure, Except.toOption, Option.bind_some, Option.toList_some,
        longest_append_singleton, largest_append_singleton, Option.elim_some]
  | last passes full =>
    rename_i index report
    have falls := stopped.verdictTime_last passes full
    have none : failuresAmong (finished [(time, .finish index (.ok report))]) = [] := by
      simp only [finished, failuresAmong, List.filterMap_cons, Step.finish?_finish, Option.map_some,
        List.filterMap_nil, List.filter_cons, Finish.passes, passes, decide_true, Bool.not_true,
        Bool.false_eq_true, ↓reduceIte, List.filter_nil]
    simp only [reference, falls, stopped.decider?_other none, stopped.ne_budget, ↓reduceIte,
      resolution, Option.bind_none, Option.toList_none, List.append_nil, Option.elim_none]
  | ring =>
    obtain ⟨now, falls⟩ := stopped.verdictTime_ring missing
    have none : failuresAmong (finished [(time, Step.ring)]) = [] := rfl
    have count : (passedBy script time).length = done.length := stopped.length_passedBy
    have short : (passedBy script time).length ≠ script.length := by omega
    simp only [reference, falls, stopped.decider?_other none, if_pos now, resolution, if_neg short,
      Option.bind_none, Option.toList_none, List.append_nil, Option.elim_none]

/-- A script whose second case fails between the passes of the others. What it measured counts, and is
more than the answer can hold. -/
def failingScript : Script :=
  [some (5, .ok ⟨.pass, 2500000, -7, "first"⟩),
    some (9, .ok ⟨.wrongAnswer, 1999999, 10000000000, "second"⟩),
    some (12, .ok ⟨.pass, 9000000, 3, "third"⟩)]

theorem timed_eq_reference_failingScript :
    failingScript ≠ [] ∧ failingScript.length < 2 ^ 32 ∧
      (11 :: (finishing failingScript).map (·.1)).Nodup ∧
      timed failingScript 11 = (verdictTime failingScript 11, reference failingScript 11) ∧
      verdictTime failingScript 11 = 9 ∧
      reference failingScript 11 = ⟨.wrongAnswer, 1, 3, 2, 4294967295, "second"⟩ :=
  ⟨by decide, by decide, by decide,
    timed_eq_reference (by decide) (by decide) (by decide), by decide, by decide⟩

end CodeJudge.Resolver
