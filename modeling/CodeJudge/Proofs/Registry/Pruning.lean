import CodeJudge.Proofs.Registry.History

/-!
# Pruning goes unnoticed

Two runs of one registry with the same operations at the same times, of which one has been pruned more
often (`Pruned`). Their tables differ: one of them still holds leases, and whole services, that the other
has dropped. What both have dropped or kept they agree on, and what only one of them holds has run out by
the last prune (`Behind`); every operation that they share keeps it so.

**The law** (`pruning_unnoticed`): turn by turn, leaving prunes aside, the two runs come to the same
answers. Only a deregistration may be answered differently, by false where it has been pruned more often
and by true in the other run, and only of a lease that has run out by then.

**What it does not establish.** Anything of an operation that looks at the clock, and comes to the table
only after a prune that looked at the clock later.
-/

namespace CodeJudge.Registry

/-! ## Two runs -/

/-- Performs an operation. A registration that has no result leaves the table as it is. -/
def perform (registry : Registry) (event : Event) : Option Answer × Registry :=
  match registry.perform? event with
  | some (answer, next) => (some answer, next)
  | none => (none, registry)

/-- An operation in its turn: the table that it finds, and what comes of it. -/
structure Turn where
  found : Registry
  event : Event
  answer : Option Answer

/-- The turns of a history. -/
def turns (registry : Registry) : List Event → List Turn
  | [] => []
  | event :: rest =>
    ⟨registry, event, (registry.perform event).1⟩ :: turns (registry.perform event).2 rest

/-- The turns of a history that are no prunes. -/
def dealings (registry : Registry) (history : List Event) : List Turn :=
  (registry.turns history).filter fun turn => turn.event.operation ≠ .prune

/-- **More prunes**: the second history is the first one with prunes put in, anywhere and at any times. -/
inductive Pruned : List Event → List Event → Prop
  | nil : Pruned [] []
  | shared {fewer more : List Event} (event : Event) (rest : Pruned fewer more) :
      Pruned (event :: fewer) (event :: more)
  | extra {fewer more : List Event} (time : Nanos) (rest : Pruned fewer more) :
      Pruned fewer (⟨time, .prune⟩ :: more)

/-- **What may differ between two turns** of one operation, the second of them after more prunes: nothing,
or whether a lease that has run out was there to be taken out. -/
inductive Alike : Turn → Turn → Prop
  | same {fewer more : Registry} {event : Event} {answer : Option Answer} :
      Alike ⟨fewer, event, answer⟩ ⟨more, event, answer⟩
  | lapsed {fewer more : Registry} {time : Nanos} {service id : String} {lease : Lease}
      (held : (fewer.leases service).get? id = some lease) (ended : lease.holds time = false) :
      Alike ⟨fewer, ⟨time, .deregister service id⟩, some (.deregistered true)⟩
        ⟨more, ⟨time, .deregister service id⟩, some (.deregistered false)⟩

/-! ## Two tables -/

/-- **What is left of a lease** that may have been pruned in the second table and not in the first. -/
inductive Left (clock : Nanos) : Option Lease → Option Lease → Prop
  | same (found : Option Lease) : Left clock found found
  | ended {lease : Lease} (lapsed : lease.holds clock = false) : Left clock (some lease) none

variable {clock now : Nanos} {found other : Option Lease} {first second : Registry}

/-- A lease that has run out does not hold later on. -/
theorem holds_eq_false_of_le {lease : Lease} (lapsed : lease.holds clock = false) (le : clock ≤ now) :
    lease.holds now = false := by
  rw [Lease.holds, decide_eq_false_iff_not] at *
  exact fun holds => lapsed (Nat.lt_of_le_of_lt le holds)

/-- Where both tables drop what does not pass a test, the same may be left of a lease. -/
theorem Left.filter (left : Left clock found other) (keeps : Lease → Bool) :
    Left clock (found.filter keeps) (other.filter keeps) := by
  cases left with
  | same found => exact .same _
  | @ended lease lapsed =>
    rw [Option.filter_none, Option.filter_some]
    split
    · exact .ended lapsed
    · exact .same none

/-- Where the second table is pruned, it may drop what has run out by then. -/
theorem Left.prune (left : Left clock found other) (le : clock ≤ now) :
    Left now found (other.filter fun lease => lease.holds now) := by
  cases left with
  | ended lapsed => exact .ended (holds_eq_false_of_le lapsed le)
  | same found =>
    cases found with
    | none => exact .same none
    | some lease =>
      rw [Option.filter_some]
      split
      · exact .same _
      · rename_i ended
        exact .ended (Bool.eq_false_of_not_eq_true ended)

/-- **Two tables of which the second has been pruned more often**, the last time at `clock`. -/
structure Behind (clock : Nanos) (first second : Registry) : Prop where
  span : second.ttl = first.ttl
  sound : first.Sound
  soundSecond : second.Sound
  left : ∀ service id, Left clock ((first.leases service).get? id) ((second.leases service).get? id)

/-- Leases that hold are listed, whatever else is in the table. -/
theorem live_eq_of_holding {service : String} (sound : first.Sound) (soundSecond : second.Sound)
    (same : ∀ id lease, lease.holds now = true →
      ((first.leases service).get? id = some lease ↔ (second.leases service).get? id = some lease)) :
    first.live now service = second.live now service := by
  refine eq_of_sorted (sound.sorted_live now service) (soundSecond.sorted_live now service) ?_
  intro instance_
  rw [mem_live, mem_live]
  refine exists_congr fun lease => ?_
  rw [← (sound.leases service).get?_eq_some, ← (soundSecond.leases service).get?_eq_some]
  constructor
  · rintro ⟨there, holds, address⟩
    exact ⟨(same _ _ holds).mp there, holds, address⟩
  · rintro ⟨there, holds, address⟩
    exact ⟨(same _ _ holds).mpr there, holds, address⟩

namespace Behind

/-- A table is not behind itself. -/
theorem refl (sound : first.Sound) : Behind 0 first first := ⟨rfl, sound, sound, fun _ _ => .same _⟩

/-- One more prune of the second table. -/
theorem prune (behind : Behind clock first second) (le : clock ≤ now) :
    Behind now first (second.prune now).2 where
  span := behind.span
  sound := behind.sound
  soundSecond := behind.soundSecond.prune now
  left service id := by
    rw [behind.soundSecond.get?_prune]
    exact (behind.left service id).prune le

/-- Both tables list the same. -/
theorem live_eq (behind : Behind clock first second) (le : clock ≤ now) (service : String) :
    first.live now service = second.live now service := by
  refine live_eq_of_holding behind.sound behind.soundSecond fun id lease holds => ?_
  have left := behind.left service id
  generalize (first.leases service).get? id = found at left ⊢
  generalize (second.leases service).get? id = other at left ⊢
  cases left with
  | same => rfl
  | @ended lease_ lapsed =>
    refine iff_of_false ?_ nofun
    rintro ⟨rfl⟩
    rw [holds_eq_false_of_le lapsed le] at holds
    cases holds

/-- A registration has a result in both tables or in neither, and renews what is left of a lease. -/
theorem register? (behind : Behind clock first second) (now : Nanos) (service : String)
    (instance_ : Instance) :
    (first.register? now service instance_ = none ∧ second.register? now service instance_ = none) ∨
    ∃ next nextSecond, first.register? now service instance_ = some next ∧
      second.register? now service instance_ = some nextSecond ∧ Behind clock next nextSecond := by
  by_cases representable : now + first.ttl < endOfTime
  · have registered : first.register? now service instance_ = some _ :=
      register?_eq_some.mpr ⟨representable, rfl⟩
    have registeredSecond : second.register? now service instance_ = some _ :=
      register?_eq_some.mpr ⟨behind.span.symm ▸ representable, rfl⟩
    refine .inr ⟨_, _, registered, registeredSecond, ?_⟩
    refine ⟨behind.span, behind.sound.register? registered, behind.soundSecond.register? registeredSecond, ?_⟩
    intro other id
    rw [get?_of_register? registered, get?_of_register? registeredSecond, behind.span]
    split
    · exact .same _
    · exact behind.left other id
  · refine .inl ⟨if_neg representable, ?_⟩
    rw [← behind.span] at representable
    exact if_neg representable

/-- A deregistration leaves no lease of the instance in either table. -/
theorem deregister (behind : Behind clock first second) (service id : String) :
    Behind clock (first.deregister service id).2 (second.deregister service id).2 where
  span := by
    rw [ttl_deregister, ttl_deregister]
    exact behind.span
  sound := behind.sound.deregister service id
  soundSecond := behind.soundSecond.deregister service id
  left other key := by
    rw [behind.sound.get?_deregister, behind.soundSecond.get?_deregister]
    split
    · exact .same none
    · exact behind.left other key

/-- What is answered to a deregistration depends on a lease that has run out, at most. -/
theorem deregister_alike (behind : Behind clock first second) (le : clock ≤ now) (service id : String) :
    Alike ⟨first, ⟨now, .deregister service id⟩, some (.deregistered (first.deregister service id).1)⟩
      ⟨second, ⟨now, .deregister service id⟩, some (.deregistered (second.deregister service id).1)⟩ := by
  rw [deregister_fst, deregister_fst]
  have left := behind.left service id
  generalize held : (first.leases service).get? id = found at left ⊢
  generalize (second.leases service).get? id = other at left ⊢
  cases left with
  | same => exact .same
  | ended lapsed => exact .lapsed held (holds_eq_false_of_le lapsed le)

/-- Both tables are pruned. -/
theorem pruneBoth (behind : Behind clock first second) (now : Nanos) :
    Behind clock (first.prune now).2 (second.prune now).2 where
  span := behind.span
  sound := behind.sound.prune now
  soundSecond := behind.soundSecond.prune now
  left service id := by
    rw [behind.sound.get?_prune, behind.soundSecond.get?_prune]
    exact (behind.left service id).filter _

/-- **An operation that both runs perform** leaves the second table as far behind as it was, and is
answered alike unless it is a prune. -/
theorem step (behind : Behind clock first second) {event : Event} (le : clock ≤ event.time) :
    Behind clock (first.perform event).2 (second.perform event).2 ∧
      (event.operation ≠ .prune →
        Alike ⟨first, event, (first.perform event).1⟩ ⟨second, event, (second.perform event).1⟩) := by
  obtain ⟨time, operation⟩ := event
  cases operation with
  | register service instance_ =>
    rcases behind.register? time service instance_ with
      ⟨refused, refusedSecond⟩ | ⟨next, nextSecond, registered, registeredSecond, after⟩
    · simp only [perform, perform?, refused, refusedSecond, Option.map_none]
      exact ⟨behind, fun _ => .same⟩
    · simp only [perform, perform?, registered, registeredSecond, Option.map_some]
      exact ⟨after, fun _ => .same⟩
  | deregister service id =>
    exact ⟨behind.deregister service id, fun _ => behind.deregister_alike le service id⟩
  | live service =>
    simp only [perform, perform?, behind.live_eq le service]
    exact ⟨behind, fun _ => .same⟩
  | prune => exact ⟨behind.pruneBoth time, fun other => absurd rfl other⟩

/-! ## Turn by turn -/

/-- From tables of which the second is behind, runs of which the second is pruned more often come to
the same answers. -/
theorem dealings {fewer more : List Event} (behind : Behind clock first second) (pruned : Pruned fewer more)
    (late : ∀ event ∈ more, clock ≤ event.time)
    (ordered : more.Pairwise fun earlier later => earlier.operation = .prune → earlier.time ≤ later.time) :
    List.Forall₂ Alike (first.dealings fewer) (second.dealings more) := by
  induction pruned generalizing clock first second with
  | nil => exact .nil
  | @shared fewer more event rest ih =>
    obtain ⟨-, ordered⟩ := List.pairwise_cons.mp ordered
    obtain ⟨after, alike⟩ := behind.step (late event List.mem_cons_self)
    have others := ih after (fun event there => late event (List.mem_cons_of_mem _ there)) ordered
    unfold Registry.dealings turns
    by_cases isPrune : event.operation = .prune
    · rw [List.filter_cons_of_neg (by simpa using isPrune), List.filter_cons_of_neg (by simpa using isPrune)]
      exact others
    · rw [List.filter_cons_of_pos (by simpa using isPrune), List.filter_cons_of_pos (by simpa using isPrune)]
      exact .cons (alike isPrune) others
  | @extra fewer more time rest ih =>
    obtain ⟨last, ordered⟩ := List.pairwise_cons.mp ordered
    -- from here on, what the second table lacks has run out by this prune
    have after : Behind time first (second.prune time).2 := behind.prune (late _ List.mem_cons_self)
    exact ih after (fun event there => last event there rfl) ordered

end Behind

/-- **Pruning goes unnoticed.** Of two runs of a registry that have the same operations at the same times,
but for prunes that only the second one has, every registration and every listing is answered alike; and
so is every deregistration, unless the lease that it names has run out: then it may find the lease in the
first run and not in the second. All that is asked of the times is that no operation comes after a prune
of a later time. -/
theorem pruning_unnoticed {ttl : Nanos} {fewer more : List Event} (pruned : Pruned fewer more)
    (ordered : more.Pairwise fun earlier later => earlier.operation = .prune → earlier.time ≤ later.time) :
    List.Forall₂ Alike (dealings { ttl } fewer) (dealings { ttl } more) :=
  (Behind.refl (sound_empty ttl)).dealings pruned (fun _ _ => Nat.zero_le _) ordered

/-- Two instances lapse, the first of them is registered anew, and the second is taken out. -/
def lapsing : List Event := [
  ⟨0, .register "judge" ⟨"first", "here"⟩⟩, ⟨1, .register "judge" ⟨"second", "next"⟩⟩,
  ⟨12, .live "judge"⟩, ⟨13, .register "judge" ⟨"first", "there"⟩⟩, ⟨14, .live "judge"⟩,
  ⟨15, .deregister "judge" "second"⟩]

/-- The same, with a prune that drops both leases, and so the service, and one that drops nothing. -/
def lapsingPruned : List Event :=
  lapsing.take 2 ++ ⟨11, .prune⟩ :: (lapsing.drop 2).take 3 ++ ⟨14, .prune⟩ :: lapsing.drop 5

theorem pruning_unnoticed_lapsing :
    List.Forall₂ Alike (dealings { ttl := 10 } lapsing) (dealings { ttl := 10 } lapsingPruned) ∧
    (dealings { ttl := 10 } lapsing).map (·.answer) =
      [some .registered, some .registered, some (.listed []), some .registered,
        some (.listed [⟨"first", "there"⟩]), some (.deregistered true)] ∧
    (dealings { ttl := 10 } lapsingPruned).map (·.answer) =
      [some .registered, some .registered, some (.listed []), some .registered,
        some (.listed [⟨"first", "there"⟩]), some (.deregistered false)] := by
  have pruned : Pruned lapsing lapsingPruned :=
    .shared _ (.shared _ (.extra 11 (.shared _ (.shared _ (.shared _ (.extra 14 (.shared _ .nil)))))))
  exact ⟨pruning_unnoticed pruned (by decide), by decide +kernel, by decide +kernel⟩

end CodeJudge.Registry
