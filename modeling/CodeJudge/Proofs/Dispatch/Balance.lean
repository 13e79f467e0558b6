import CodeJudge.Proofs.Dispatch.Run
import CodeJudge.Proofs.Dispatch.Turns
import Mathlib.Data.Int.CardIntervalMod

/-!
# Even turns

The calls of all dispatches go round the instances together: whichever dispatch makes the next call, and
whether the call before it has been answered, has failed or is still under way, the next call goes to the
next place. The places of the calls so far are the turns of the first numbers, in their order (`Turned`).

**The law** (`places_balanced`): at every moment, of any two places in the list of instances one has been
called at most once more often than the other.

**What it does not establish.** Anything for lists of instances that change between dispatches, nor for a
counter that has come round to its start: then a place may be called twice in a row, where the number of
instances does not divide the number of words.
-/

namespace CodeJudge.Dispatch

/-- Of the turns of the first numbers, each place has its share, and the places first in the list may have
one more. -/
theorem count_turns {count place total : Nat} (there : place < count) (few : total ≤ 2 ^ 64) :
    ((List.range total).map (turnOf count)).count place =
      total / count + if place < total % count then 1 else 0 := by
  have turns : ∀ number ∈ List.range total,
      ((fun turn => turn == place) ∘ turnOf count) number = true ↔
        decide (number ≡ place [MOD count]) = true := by
    intro number mem
    have early : number < 2 ^ 64 := (List.mem_range.mp mem).trans_le few
    rw [Function.comp_apply, turnOf_of_lt early, beq_iff_eq, decide_eq_true_iff, Nat.ModEq,
      Nat.mod_eq_of_lt there]
  calc ((List.range total).map (turnOf count)).count place
      = total.count (· ≡ place [MOD count]) := by
        rw [List.count_eq_countP, List.countP_map, List.countP_congr turns]
        rfl
    _ = total / count + if place < total % count then 1 else 0 := by
        rw [Nat.count_modEq_card total (Nat.zero_lt_of_lt there) place, Nat.mod_eq_of_lt there]

/-! ## The turns of a run -/

/-- Whether a dispatch calls instances of the list and no others. -/
def Stage.Calls (instances : List String) : Stage → Prop
  | .take list _ _ | .call list _ _ => list = instances
  | .resolve | .ended _ => True

/-- **What a run has to do with the turns of its numbers**: its calls went to the places whose turn it was,
one for each number, and the counter stands at the next. -/
structure Turned (instances : List String) (run : Run) : Prop where
  counter : run.counter = .ofNat run.places.length
  places : run.places.reverse = (List.range run.places.length).map (turnOf instances.length)
  calls : ∀ (index : Nat) (stage : Stage), run.active[index]? = some stage → stage.Calls instances

variable {policy : Policy} {instances : List String} {run next : Run} {index : Nat} {stage : Stage}

theorem Stage.calls_before (fault : Fault) (left : Nat) :
    (before policy instances fault left).Calls instances := by
  cases left with
  | zero => trivial
  | succ left => rfl

theorem Stage.calls_ofResolved :
    (ofResolved policy (.ok instances)).Calls instances := by
  cases instances with
  | nil => trivial
  | cons first rest => exact calls_before noCall policy.tries

theorem Stage.calls_ofAnswer (left : Nat) (answer : Except Fault JobResult) :
    (ofAnswer policy instances left answer).Calls instances := by
  cases answer with
  | ok result => trivial
  | error fault => exact calls_before fault left

namespace Turned

/-- No call has been made at the start. -/
theorem start : Turned instances {} := ⟨rfl, rfl, nofun⟩

/-- A step without a call leaves the turns as they are. -/
theorem quiet (turned : Turned instances run) (calls : stage.Calls instances) :
    Turned instances (run.set index stage) := by
  refine ⟨turned.counter, turned.places, ?_⟩
  intro other found there
  rcases getElem?_step there with ⟨rfl, rfl⟩ | ⟨-, there⟩
  · exact calls
  · exact turned.calls other found there

/-- A dispatch that begins makes no call. -/
theorem come (turned : Turned instances run) :
    Turned instances { run with active := run.active ++ [.resolve] } := by
  refine ⟨turned.counter, turned.places, ?_⟩
  intro other found there
  rcases getElem?_come there with there | ⟨-, rfl⟩
  · exact turned.calls other found there
  · trivial

/-- The next call goes to the place whose turn it is. -/
theorem take (turned : Turned instances run) (index left : Nat) :
    Turned instances
      { run.set index (.call instances (slot run.counter instances.length) left) with
        counter := run.counter + 1
        places := slot run.counter instances.length :: run.places } := by
  refine ⟨?_, ?_, ?_⟩
  · rw [List.length_cons, turned.counter, UInt64.ofNat_add]
    rfl
  · rw [List.reverse_cons, turned.places, List.length_cons, List.range_succ, List.map_append, turned.counter]
    rfl
  · intro other found there
    rcases getElem?_step there with ⟨rfl, rfl⟩ | ⟨-, there⟩
    · rfl
    · exact turned.calls other found there

/-- Whatever happens next keeps to the turns, when every dispatch is given the same instances. -/
theorem follow {event : Event} (turned : Turned instances run) (follows : Run.Follows policy run event next)
    (same : ∀ index answer, event = .resolved index answer → answer = .ok instances) :
    Turned instances next := by
  cases follows with
  | came => exact turned.come
  | @resolved index answer here =>
    obtain rfl := same index answer rfl
    exact turned.quiet Stage.calls_ofResolved
  | took here =>
    obtain rfl := turned.calls _ _ here
    exact turned.take _ _
  | answered here =>
    obtain rfl := turned.calls _ _ here
    exact turned.quiet (Stage.calls_ofAnswer _ _)

end Turned

/-- Wherever a run has come to, it has kept to the turns. -/
theorem turned_of_after? {events : List Event} (ran : Run.after? policy {} events = some run)
    (same : ∀ index answer, .resolved index answer ∈ events → answer = .ok instances) :
    Turned instances run := by
  revert same
  refine foldlM_induction (motive := fun events run =>
    (∀ index answer, .resolved index answer ∈ events → answer = .ok instances) → Turned instances run)
    (fun _ => .start) ?_ ran
  intro events run event next ran held happened same
  have turned := held fun index answer mem => same index answer (List.mem_append_left _ mem)
  refine turned.follow (Run.follows_of_next? happened) ?_
  rintro index answer rfl
  exact same index answer (List.mem_append_right _ (List.mem_singleton_self _))

/-- **Turns are even.** Where every dispatch is given the same instances, all calls go to places of their
list; and of any two places one has been called at most once more often than the other, at every moment of
every run of dispatches, whatever they have been answered, until the counter comes round to its start. -/
theorem places_balanced {events : List Event} (nonempty : instances ≠ [])
    (ran : Run.after? policy {} events = some run)
    (same : ∀ index answer, .resolved index answer ∈ events → answer = .ok instances)
    (few : run.places.length ≤ 2 ^ 64) :
    (∀ place ∈ run.places, place < instances.length) ∧
    ∀ first second, first < instances.length → second < instances.length →
      run.places.count first ≤ run.places.count second + 1 := by
  have turned := turned_of_after? ran same
  have share {place : Nat} (there : place < instances.length) : run.places.count place =
      run.places.length / instances.length + if place < run.places.length % instances.length then 1 else 0 := by
    rw [← List.count_reverse, turned.places, count_turns there few]
  refine ⟨?_, ?_⟩
  · intro place mem
    rw [← List.mem_reverse, turned.places] at mem
    obtain ⟨number, -, rfl⟩ := List.mem_map.mp mem
    exact Nat.mod_lt _ (List.length_pos_iff.mpr nonempty)
  · intro first second one other
    rw [share one, share other]
    split <;> split <;> omega

/-- Three attempts for each job. -/
def thrice : Policy := ⟨"judge-worker", 3⟩

/-- Three instances. -/
def trio : List String := ["127.0.0.1:1", "127.0.0.1:2", "127.0.0.1:3"]

/-- Two dispatches at once: the second is answered between the failures of the first. -/
def alternating : List Event :=
  [.come, .come, .resolved 0 (.ok trio), .resolved 1 (.ok trio), .take 0, .take 1,
    .answered 0 (.error noCall), .take 0, .answered 1 (.ok ⟨1, .accepted, 1, 1, 0, 0, none⟩),
    .answered 0 (.error noCall), .take 0]

theorem places_balanced_alternating :
    (Run.after? thrice {} alternating).map (·.places) = some [0, 2, 1, 0] ∧
    (∀ place ∈ [0, 2, 1, 0], place < trio.length) ∧
    ∀ first second, first < trio.length → second < trio.length →
      [0, 2, 1, 0].count first ≤ [0, 2, 1, 0].count second + 1 := by
  have ran : Run.after? thrice {} alternating = some ((Run.after? thrice {} alternating).getD {}) := rfl
  refine ⟨rfl, places_balanced (by decide) ran ?_ (by decide)⟩
  intro index answer mem
  simp only [alternating, List.mem_cons, Event.resolved.injEq, reduceCtorEq, List.not_mem_nil,
    false_or, or_false] at mem
  rcases mem with ⟨-, rfl⟩ | ⟨-, rfl⟩ <;> rfl

end CodeJudge.Dispatch
