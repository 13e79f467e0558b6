import CodeJudge.Proofs.Dispatch.Run
import CodeJudge.Proofs.Dispatch.Turns

/-!
# Going on to another instance

A call that fails is followed by a call to the instance whose turn is next. The turns are counted by one
counter that all dispatches share, so the next number of a dispatch need not be the one after its last:
another dispatch may have taken that, and with it the instance that would have answered.

`Rotates` is the invariant: it ties what a dispatch has left, and where it has been, to the numbers that it
was given. A dispatch has all its numbers when it fails, and none of them was the turn of an instance that
answers every call; so a round of turns ends between two of them, over and over, with a number that another
dispatch was given. Each of these is a dispatch of its own, as it has its answer then.

**The law** (`failover_unless_overtaken`): when one instance answers every call, and there are at least as
many attempts as instances, then every dispatch has its answer or goes on, or has been overtaken, by one
dispatch at least and the more the more attempts there are. A dispatch that no other comes in the way of
does not fail, and with more attempts none fails that has few beside it (`answered_of_attempts`).

**What it does not establish.** Anything for lists of instances that change between dispatches.
-/

namespace CodeJudge.Dispatch

/-! ## The invariant -/

section

variable (policy : Policy) (instances : List String) (place : Nat)

/-- **What is known of a dispatch at each of its stages**: how many numbers it was given, and that none
of those that failed was the turn of the instance at `place`. -/
def Tried (taken : List Nat) (index : Nat) : Stage → Prop
  | .resolve => numbers taken index = ∅
  | .take list _ left =>
    list = instances ∧ (numbers taken index).card + left = policy.tries ∧
      ∀ number ∈ numbers taken index, turnOf instances.length number ≠ place
  | .call list now left =>
    list = instances ∧ (numbers taken index).card + left = policy.tries ∧
      ∀ number ∈ numbers taken index, turnOf instances.length number ≠ place ∨ now = place
  | .ended (.error _) =>
    (numbers taken index).card = policy.tries ∧
      ∀ number ∈ numbers taken index, turnOf instances.length number ≠ place
  | .ended (.ok _) => True

/-- **What a run has to do with the numbers that were given.** The turn of the instance at `place` is the
last number of a dispatch that is given it. -/
structure Rotates (events : List Event) (run : Run) : Prop where
  counter : run.counter = .ofNat (takers events).length
  bounded : ∀ index ∈ takers events, index < run.active.length
  once : ∀ index, ∀ number ∈ numbers (takers events) index, ∀ other ∈ numbers (takers events) index,
    turnOf instances.length number = place → turnOf instances.length other = place → number = other
  tried : ∀ (index : Nat) (stage : Stage), run.active[index]? = some stage →
    Tried policy instances place (takers events) index stage

end

variable {policy : Policy} {instances : List String} {place : Nat} {events : List Event} {run : Run}
variable {taken : List Nat} {index : Nat} {stage : Stage}

/-- What is known of a dispatch is known after a number was given to another. -/
theorem Tried.given {giver : Nat} (tried : Tried policy instances place taken index stage)
    (others : giver ≠ index) :
    Tried policy instances place (taken ++ [giver]) index stage := by
  unfold Tried at *
  rwa [numbers_append_other others]

/-- A dispatch that has a call left goes on to take a number. -/
theorem Tried.before {fault : Fault} {left : Nat}
    (spent : (numbers taken index).card + left = policy.tries)
    (missed : ∀ number ∈ numbers taken index, turnOf instances.length number ≠ place) :
    Tried policy instances place taken index (.before policy instances fault left) := by
  cases left with
  | zero => exact ⟨spent, missed⟩
  | succ left => exact ⟨rfl, spent, missed⟩

namespace Rotates

/-- Nothing has been given at the start. -/
theorem start : Rotates policy instances place [] {} where
  counter := rfl
  bounded := nofun
  once _ _ mem := absurd mem (Finset.notMem_empty _)
  tried := nofun

/-- An event that gives no number leaves the numbers as they are. -/
theorem quiet {event : Event} {after : Stage} (rotates : Rotates policy instances place events run)
    (gives : event.taker? = none)
    (tried : Tried policy instances place (takers events) index after) :
    Rotates policy instances place (events ++ [event]) (run.set index after) := by
  have same := takers_append_of_quiet events gives
  refine ⟨?_, ?_, ?_, ?_⟩
  · rw [same]
    exact rotates.counter
  · rw [same, Run.set, List.length_set]
    exact rotates.bounded
  · rw [same]
    exact rotates.once
  · rw [same]
    intro other found there
    rcases getElem?_step there with ⟨rfl, rfl⟩ | ⟨-, there⟩
    · exact tried
    · exact rotates.tried other found there

/-- A dispatch that begins has no number. -/
theorem come (rotates : Rotates policy instances place events run) :
    Rotates policy instances place (events ++ [.come])
      { run with active := run.active ++ [.resolve] } := by
  have same : takers (events ++ [.come]) = takers events := takers_append_of_quiet events rfl
  refine ⟨?_, ?_, ?_, ?_⟩
  · rw [same]
    exact rotates.counter
  · rw [same, List.length_append]
    exact fun index mem => Nat.lt_succ_of_lt (rotates.bounded index mem)
  · rw [same]
    exact rotates.once
  · rw [same]
    intro index stage there
    rcases getElem?_come there with there | ⟨rfl, rfl⟩
    · exact rotates.tried index stage there
    · exact numbers_of_not_mem fun mem => (rotates.bounded _ mem).ne rfl

/-- The next number goes to the dispatch that takes it. -/
theorem take {left : Nat} {fault : Fault} (rotates : Rotates policy instances place events run)
    (here : run.active[index]? = some (.take instances fault (left + 1))) :
    Rotates policy instances place (events ++ [.take index])
      { run.set index (.call instances (slot run.counter instances.length) left) with
        counter := run.counter + 1
        places := slot run.counter instances.length :: run.places } := by
  have more := takers_append_take events index
  obtain ⟨-, spent, missed⟩ := rotates.tried index _ here
  refine ⟨?_, ?_, ?_, ?_⟩
  · rw [more, List.length_append, List.length_singleton, rotates.counter, UInt64.ofNat_add]
    rfl
  · rw [more]
    intro giver mem
    simp only [Run.set, List.length_set]
    rcases List.mem_append.mp mem with mem | mem
    · exact rotates.bounded giver mem
    · obtain rfl := List.mem_singleton.mp mem
      exact (List.getElem?_eq_some_iff.mp here).1
  · rw [more]
    intro giver
    by_cases self : index = giver
    · subst self
      rw [numbers_append_self]
      intro number mem other mem' turn turn'
      -- no earlier number was the turn, so the new one is the only one that can be
      have new {number : Nat} (mem : number ∈ insert (takers events).length (numbers (takers events) index))
          (turn : turnOf instances.length number = place) : number = (takers events).length :=
        (Finset.mem_insert.mp mem).resolve_right fun mem => missed number mem turn
      rw [new mem turn, new mem' turn']
    · rw [numbers_append_other self]
      exact rotates.once giver
  · rw [more]
    intro other found there
    rcases getElem?_step there with ⟨rfl, rfl⟩ | ⟨others, there⟩
    · refine ⟨rfl, ?_, fun number mem => ?_⟩
      · rw [card_numbers_append_self]
        omega
      · rw [numbers_append_self, Finset.mem_insert] at mem
        rcases mem with rfl | mem
        · rw [rotates.counter]
          exact ne_or_eq _ _
        · exact .inl (missed number mem)
    · exact (rotates.tried other found there).given others

end Rotates

/-! ## Along a run -/

/-- Wherever a run has come to, its numbers were given in turn. Every dispatch is given the same list, and
the instance at `place` answers every call. -/
theorem rotates_of_after? (nonempty : instances ≠ [])
    (ran : Run.after? policy {} events = some run)
    (same : ∀ index answer, .resolved index answer ∈ events → answer = .ok instances)
    (works : ∀ answer, (place, answer) ∈ Run.answers policy {} events → ∃ result, answer = .ok result) :
    Rotates policy instances place events run := by
  revert same works
  refine foldlM_induction (motive := fun events run =>
    (∀ index answer, .resolved index answer ∈ events → answer = .ok instances) →
    (∀ answer, (place, answer) ∈ Run.answers policy {} events → ∃ result, answer = .ok result) →
    Rotates policy instances place events run) (fun _ _ => .start) ?_ ran
  intro events run event next ran held happened same works
  rw [Run.answers_append_event ran happened] at works
  have rotates := held
    (fun index answer mem => same index answer (List.mem_append_left _ mem))
    (fun answer mem => works answer (List.mem_append_left _ mem))
  cases Run.follows_of_next? happened with
  | came => exact rotates.come
  | @resolved index answer here =>
    obtain rfl := same index answer (List.mem_append_right _ (List.mem_singleton_self _))
    have fresh : numbers (takers events) index = ∅ := rotates.tried index _ here
    obtain ⟨first, rest, rfl⟩ := List.exists_cons_of_ne_nil nonempty
    refine rotates.quiet rfl (.before ?_ ?_)
    · rw [fresh, Finset.card_empty, Nat.zero_add]
    · rw [fresh]
      exact fun _ mem => absurd mem (Finset.notMem_empty _)
  | took here =>
    obtain ⟨rfl, -, -⟩ := rotates.tried _ _ here
    exact rotates.take here
  | @answered index now left _ answer here =>
    obtain ⟨rfl, spent, missed⟩ := rotates.tried index _ here
    refine rotates.quiet rfl ?_
    cases answer with
    | ok result => trivial
    | error fault =>
      refine .before spent fun number mem => (missed number mem).resolve_right ?_
      rintro rfl
      -- the instance that answers every call has answered this one
      have answered : run.answer? (.answered index (.error fault)) = some (now, .error fault) := by
        simp only [Run.answer?, here]
      obtain ⟨result, same⟩ := works (.error fault) (by
        rw [answered]
        exact List.mem_append_right _ (List.mem_singleton_self _))
      cases same

/-! ## Overtaking -/

/-- One dispatch is given the turn of the instance at `place` between two numbers of another. -/
def Overtakes (taken : List Nat) (count place index overtaker : Nat) : Prop :=
  ∃ first ∈ numbers taken index, ∃ last ∈ numbers taken index, ∃ turn ∈ numbers taken overtaker,
    first < turn ∧ turn < last ∧ turn % count = place

/-- **The overtakers of a dispatch that failed**: at the end of each round between its first number and its
last, another dispatch was given the turn, each time a different one. -/
theorem Rotates.overtakers {fault : Fault} (rotates : Rotates policy instances place events run)
    (there : place < instances.length) (few : (takers events).length < 2 ^ 64)
    (failed : run.active[index]? = some (.ended (.error fault))) :
    ∃ overtakers : Finset Nat,
      policy.tries ≤ (instances.length - 1) * (overtakers.card + 1) ∧
      ∀ other ∈ overtakers, other ≠ index ∧
        Overtakes (takers events) instances.length place index other := by
  obtain ⟨spent, missed⟩ := rotates.tried index _ failed
  have turn_of {number other : Nat} (mem : number ∈ numbers (takers events) other) :
      turnOf instances.length number = number % instances.length :=
    turnOf_of_lt ((lt_of_mem_numbers mem).trans few) _
  have some_ : (numbers (takers events) index).Nonempty := by
    rw [← Finset.card_pos, spent]
    exact Nat.lt_of_lt_of_le Nat.zero_lt_one (Nat.le_max_right _ _)
  obtain ⟨first, firstMem, last, lastMem, turns, size, between⟩ :=
    exists_turns_between there (fun number mem => turn_of mem ▸ missed number mem) some_
  have given : ∀ turn ∈ turns, turn ∈ numbers (takers events) (takerOf (takers events) turn) :=
    fun turn mem => mem_numbers_takerOf ((between turn mem).2.1.trans (lt_of_mem_numbers lastMem))
  have its : ∀ turn ∈ turns, turnOf instances.length turn = place := fun turn mem =>
    (turn_of (given turn mem)).trans (between turn mem).2.2
  have distinct : Set.InjOn (takerOf (takers events)) turns := by
    intro turn mem other mem' same
    refine rotates.once _ turn (given turn mem) other ?_ (its turn mem) (its other mem')
    rw [same]
    exact given other mem'
  refine ⟨turns.image (takerOf (takers events)), ?_, fun other in_ => ?_⟩
  · rwa [Finset.card_image_of_injOn distinct, ← spent]
  · obtain ⟨turn, mem, rfl⟩ := Finset.mem_image.mp in_
    refine ⟨fun same => missed turn (same ▸ given turn mem) (its turn mem), ?_⟩
    exact ⟨first, firstMem, last, lastMem, turn, given turn mem, between turn mem⟩

section

variable (ran : Run.after? policy {} events = some run)
    (same : ∀ index answer, .resolved index answer ∈ events → answer = .ok instances)
    (there : place < instances.length) (few : (takers events).length < 2 ^ 64)
    (works : ∀ answer, (place, answer) ∈ Run.answers policy {} events → ∃ result, answer = .ok result)

include ran same there few works

/-- **With attempts for all, no dispatch fails**: where there are more attempts than dispatches times the
other instances, a dispatch that has come to its end has an answer. -/
theorem answered_of_attempts {answer : Except Fault JobResult}
    (many : (instances.length - 1) * run.active.length < policy.tries)
    (ended : run.active[index]? = some (.ended answer)) : ∃ result, answer = .ok result := by
  cases answer with
  | ok result => exact ⟨result, rfl⟩
  | error fault =>
    have rotates := rotates_of_after? (List.ne_nil_of_length_pos (Nat.zero_lt_of_lt there)) ran same works
    obtain ⟨overtakers, tries, others⟩ := rotates.overtakers there few ended
    have within : overtakers ⊆ (Finset.range run.active.length).erase index := by
      intro other mem
      obtain ⟨ne, -, -, -, -, turn, its, -⟩ := others other mem
      refine Finset.mem_erase.mpr ⟨ne, Finset.mem_range.mpr (rotates.bounded other ?_)⟩
      exact List.mem_of_getElem? (mem_numbers.mp its)
    have size := Finset.card_lt_card (within.trans_ssubset (Finset.erase_ssubset
      (Finset.mem_range.mpr (List.getElem?_eq_some_iff.mp ended).1)))
    rw [Finset.card_range] at size
    exact absurd (tries.trans (Nat.mul_le_mul_left _ size)) many.not_ge

/-- **A dispatch fails only when it is overtaken.** Where every dispatch is given the same instances, with
at least as many attempts, and one of the instances answers every call that is made to it, each dispatch has
an answer, or has steps left and can make one, or it has been overtaken: between two of its numbers the turn
of that instance went to another dispatch. So many have overtaken it that there are no more attempts than
other instances, counted once, and once more for each of them. -/
theorem failover_unless_overtaken (enough : instances.length ≤ policy.tries)
    (here : run.active[index]? = some stage) :
    (∃ result, stage = .ended (.ok result)) ∨
    (steps events index < policy.steps ∧
      ∃ event : Event, event.index? = some index ∧ (run.next? policy event).isSome) ∨
    ∃ overtakers : Finset Nat, overtakers.Nonempty ∧
      policy.tries ≤ (instances.length - 1) * (overtakers.card + 1) ∧
      ∀ other ∈ overtakers, other ≠ index ∧
        Overtakes (takers events) instances.length place index other := by
  rcases Run.ended_or_goes_on ran here with ⟨answer, rfl⟩ | goes
  · cases answer with
    | ok result => exact .inl ⟨result, rfl⟩
    | error fault =>
      have rotates := rotates_of_after? (List.ne_nil_of_length_pos (Nat.zero_lt_of_lt there)) ran same works
      obtain ⟨overtakers, tries, others⟩ := rotates.overtakers there few here
      refine .inr (.inr ⟨overtakers, ?_, tries, others⟩)
      rw [Finset.nonempty_iff_ne_empty]
      rintro rfl
      rw [Finset.card_empty] at tries
      omega
  · exact .inr (.inl goes)

end

/-- Two attempts for each job. -/
def twice : Policy := ⟨"judge-worker", 2⟩

/-- Two instances, the second of which answers. -/
def pair : List String := ["127.0.0.1:1", "127.0.0.1:2"]

/-- A call that no one takes. -/
def refusal : Fault := .other "connection refused"

/-- What the second instance answers. -/
def acceptance : JobResult := ⟨1, .accepted, 1, 1, 0, 0, none⟩

/-- Two dispatches, the second of which calls while the first one's call fails. -/
def overtaking : List Event :=
  [.come, .come, .resolved 0 (.ok pair), .resolved 1 (.ok pair),
    .take 0, .answered 0 (.error refusal), .take 1, .answered 1 (.ok acceptance),
    .take 0, .answered 0 (.error refusal)]

/-- Where they come to. -/
def overtaken : Run := (Run.after? twice {} overtaking).getD {}

theorem resolved_overtaking (index : Nat) (answer : Except Fault (List String))
    (mem : .resolved index answer ∈ overtaking) : answer = .ok pair := by
  simp only [overtaking, List.mem_cons, Event.resolved.injEq, reduceCtorEq, List.not_mem_nil,
    false_or, or_false] at mem
  rcases mem with ⟨-, rfl⟩ | ⟨-, rfl⟩ <;> rfl

theorem answers_overtaking (given : Except Fault JobResult)
    (mem : (1, given) ∈ Run.answers twice {} overtaking) : ∃ result, given = .ok result := by
  have all : Run.answers twice {} overtaking =
    [(0, .error refusal), (1, .ok acceptance), (0, .error refusal)] := rfl
  rw [all] at mem
  simp only [List.mem_cons, Prod.mk.injEq, Nat.one_ne_zero, false_and, true_and, List.not_mem_nil,
    or_false, false_or] at mem
  exact ⟨acceptance, mem⟩

theorem failover_unless_overtaken_twice :
    Run.after? twice {} overtaking = some overtaken ∧
    overtaken.active[0]? = some (.ended (.error (twice.exhausted refusal))) ∧
    ∃ overtakers : Finset Nat, overtakers.Nonempty ∧
      2 ≤ (pair.length - 1) * (overtakers.card + 1) ∧
      ∀ other ∈ overtakers, other ≠ 0 ∧ Overtakes (takers overtaking) pair.length 1 0 other := by
  have ran : Run.after? twice {} overtaking = some overtaken := rfl
  have failed : overtaken.active[0]? = some (.ended (.error (twice.exhausted refusal))) := rfl
  refine ⟨ran, failed, ?_⟩
  rcases failover_unless_overtaken ran resolved_overtaking (by decide) (by decide) answers_overtaking
    (by decide) failed with ⟨result, ok⟩ | ⟨left, -⟩ | overtakers
  · cases ok
  · exact absurd left (by decide)
  · exact overtakers

/-- A dispatch may fail beside an instance that answers every call, with attempts for all instances: its
second call goes where the first one went. -/
theorem dispatch_fails_beside_working_instance :
    Run.after? twice {} overtaking = some overtaken ∧
    (∀ index answer, .resolved index answer ∈ overtaking → answer = .ok pair) ∧
    pair.length ≤ twice.tries ∧
    (∀ answer, (1, answer) ∈ Run.answers twice {} overtaking → ∃ result, answer = .ok result) ∧
    takers overtaking = [0, 1, 0] ∧ overtaken.places.reverse = [0, 1, 0] ∧
    overtaken.active[0]? = some (.ended (.error (twice.exhausted refusal))) :=
  ⟨rfl, resolved_overtaking, by decide, answers_overtaking, rfl, rfl, rfl⟩

end CodeJudge.Dispatch
