import CodeJudge.Proofs.Registry.Leaving
import Mathlib.Algebra.Ring.Nat
import Mathlib.Data.Finset.Card

/-!
# Every lease ends once

A lease begins with a registration that finds none, is renewed by those that find it, and ends by being
taken out: by a deregistration, or by a prune once it has run out. Whether an instance has a lease, and
since when, is read off the history alone (`Held`), and the table has the leases that the history says
(`leasedUntil_through_iff`).

**The law** (`every_lease_ends_once`): a prune gives the number of the instances whose lease has run out,
and leaves no service without a lease; a deregistration tells whether the instance has a lease, run out or
not; and of all leases that were begun, each was either taken out by one deregistration, or counted by one
prune, or is in the table still.

Instances are counted as the pairs of a service and an id (`holders`), so that an operation on the nested
table is one on a finite set: a registration inserts a pair, a deregistration erases one, and a prune keeps
a part. Nothing is asked about how the times in the history are ordered, and a registration that has no
result, as its lease would run past the end of time, counts as none.
-/

namespace CodeJudge.Registry

variable {ttl now since expires : Nanos} {history : List Event} {event : Event} {registry next : Registry}
  {service id : String}

/-! ## What a history says of a lease -/

/-- An event gives the instance a lease for the span, or renews the one that it has. -/
def Event.Leases (event : Event) (ttl : Nanos) (service id : String) : Prop :=
  event.operation.Registers service id ∧ event.time + ttl < endOfTime

/-- **The instance has a lease** at the end of a history, which runs since its most recent registration:
that was at `since`, and nothing has taken the lease out after it. -/
def Held (ttl : Nanos) (history : List Event) (service id : String) (since : Nanos) : Prop :=
  Since (fun event => event.Leases ttl service id ∧ event.time = since)
    (fun event => event.Leases ttl service id ∨ event.Ends service id (since + ttl)) history

/-- What is registered has a lease from then on, and a lease that was there stays if it is neither renewed
nor taken out. -/
theorem Sound.leasedUntil_perform_iff (sound : registry.Sound) :
    (registry.perform event).2.LeasedUntil service id expires ↔
      event.Leases registry.ttl service id ∧ event.time + registry.ttl = expires ∨
      ¬ (event.Leases registry.ttl service id ∨ event.Ends service id expires) ∧
        registry.LeasedUntil service id expires := by
  by_cases registers : event.operation.Registers service id
  · obtain ⟨time, operation⟩ := event
    obtain ⟨address, rfl⟩ := registers
    have noEnd : ¬ Event.Ends ⟨time, .register service ⟨id, address⟩⟩ service id expires := by
      simp [Event.Ends]
    rw [perform_register]
    by_cases fits : time + registry.ttl < endOfTime
    · have leases : Event.Leases ⟨time, .register service ⟨id, address⟩⟩ registry.ttl service id :=
        ⟨⟨address, rfl⟩, fits⟩
      have made : registry.register? time service ⟨id, address⟩ = some _ :=
        register?_eq_some.mpr ⟨fits, rfl⟩
      rw [made, Option.getD_some, LeasedUntil, lease?, get?_of_register? made, if_pos rfl]
      simp [leases]
    · have refused : registry.register? time service ⟨id, address⟩ = none := if_neg fits
      rw [refused, Option.getD_none]
      simp [Event.Leases, fits, noEnd]
  · rw [sound.leasedUntil_perform registers]
    simp [Event.Leases, registers, and_comm]

theorem through_append (registry : Registry) (history : List Event) (event : Event) :
    registry.through (history ++ [event]) = ((registry.through history).perform event).2 :=
  List.foldl_concat ..

/-- **The table has the leases that the history says.** -/
theorem leasedUntil_through_iff :
    (through { ttl } history).LeasedUntil service id expires ↔
      ∃ since, Held ttl history service id since ∧ since + ttl = expires := by
  induction history using List.reverseRecOn with
  | nil =>
    refine iff_of_false ?_ ?_
    · rintro ⟨lease, there, -⟩
      cases there
    · rintro ⟨since, held, -⟩
      exact not_since_nil held
  | append_singleton history event ih =>
    have span : (through { ttl } history).ttl = ttl := ttl_through _ _
    rw [through_append, ((sound_empty ttl).through history).leasedUntil_perform_iff, span, ih]
    simp only [Held, since_append]
    constructor
    · rintro (⟨leases, rfl⟩ | ⟨goes, since, held, rfl⟩)
      · exact ⟨event.time, .inl ⟨leases, rfl⟩, rfl⟩
      · exact ⟨since, .inr ⟨goes, held⟩, rfl⟩
    · rintro ⟨since, ⟨leases, rfl⟩ | ⟨goes, held⟩, rfl⟩
      · exact .inl ⟨leases, rfl⟩
      · exact .inr ⟨goes, since, held, rfl⟩

/-! ## Who has a lease -/

/-- The instances that have a lease, by service and id, in the order of the table. -/
def pairs (registry : Registry) : List (String × String) :=
  registry.services.flatMap fun entry => entry.2.map fun lease => (entry.1, lease.1)

/-- The instances that have a lease. -/
def holders (registry : Registry) : Finset (String × String) := registry.pairs.toFinset

theorem length_pairs (registry : Registry) : registry.pairs.length = registry.size := by
  simp only [pairs, size, List.length_flatMap, List.length_map]

theorem mem_pairs : (service, id) ∈ registry.pairs ↔
    ∃ leases, (service, leases) ∈ registry.services ∧ ∃ lease, (id, lease) ∈ leases := by
  simp [pairs]

/-- A service that is in the table is looked up with its leases. -/
theorem Sound.leases_of_mem (sound : registry.Sound) {leases : Directory Lease}
    (there : (service, leases) ∈ registry.services) : registry.leases service = leases := by
  rw [Registry.leases, sound.services.get?_of_mem there, Option.getD_some]

theorem Sound.nodup_pairs (sound : registry.Sound) : registry.pairs.Nodup := by
  refine List.nodup_flatMap.mpr ⟨?_, ?_⟩
  · rintro ⟨service, leases⟩ there
    have distinct := sound.leases service
    rw [sound.leases_of_mem there] at distinct
    refine List.Nodup.of_map Prod.snd ?_
    rw [List.map_map]
    exact distinct
  · refine (List.pairwise_map.mp sound.services).imp ?_
    intro first second apart pair here also
    obtain ⟨_, -, rfl⟩ := List.mem_map.mp here
    obtain ⟨_, -, same⟩ := List.mem_map.mp also
    exact apart (congrArg Prod.fst same).symm

theorem Sound.card_holders (sound : registry.Sound) : registry.holders.card = registry.size := by
  rw [holders, List.toFinset_card_of_nodup sound.nodup_pairs, length_pairs]

/-- An instance is among the holders exactly when its lease is looked up. -/
theorem Sound.mem_holders (sound : registry.Sound) :
    (service, id) ∈ registry.holders ↔ ∃ lease, registry.lease? service id = some lease := by
  rw [holders, List.mem_toFinset, mem_pairs]
  constructor
  · rintro ⟨leases, there, lease, held⟩
    rw [← sound.leases_of_mem there] at held
    exact ⟨lease, (sound.leases service).get?_of_mem held⟩
  · rintro ⟨lease, found⟩
    have held := Directory.mem_of_get? found
    rw [Registry.leases] at held
    cases there : registry.services.get? service with
    | none =>
      rw [there, Option.getD_none] at held
      cases held
    | some leases =>
      rw [there, Option.getD_some] at held
      exact ⟨leases, Directory.mem_of_get? there, lease, held⟩

theorem Sound.notMem_holders (sound : registry.Sound) :
    (service, id) ∉ registry.holders ↔ registry.lease? service id = none := by
  rw [sound.mem_holders, ← Option.ne_none_iff_exists', not_not]

theorem Sound.mem_holders_iff_leasedUntil (sound : registry.Sound) :
    (service, id) ∈ registry.holders ↔ ∃ expires, registry.LeasedUntil service id expires := by
  rw [sound.mem_holders]
  constructor
  · rintro ⟨lease, found⟩
    exact ⟨lease.expires, lease, found, rfl⟩
  · rintro ⟨-, lease, found, -⟩
    exact ⟨lease, found⟩

/-- A registration adds the instance to the holders. -/
theorem Sound.holders_register? (sound : registry.Sound) {instance_ : Instance}
    (registered : registry.register? now service instance_ = some next) :
    next.holders = insert (service, instance_.id) registry.holders := by
  ext ⟨other, key⟩
  rw [Finset.mem_insert, (sound.register? registered).mem_holders, sound.mem_holders, lease?,
    get?_of_register? registered, ← lease?]
  by_cases same : (service, instance_.id) = (other, key)
  · simp [same]
  · simp [same, Ne.symm same]

theorem Sound.size_register? (sound : registry.Sound) {instance_ : Instance}
    (registered : registry.register? now service instance_ = some next) :
    next.size = registry.size + if registry.lease? service instance_.id = none then 1 else 0 := by
  rw [← (sound.register? registered).card_holders, ← sound.card_holders, sound.holders_register? registered]
  by_cases absent : registry.lease? service instance_.id = none
  · rw [if_pos absent, Finset.card_insert_of_notMem (sound.notMem_holders.mpr absent)]
  · rw [if_neg absent, Finset.insert_eq_of_mem (not_not.mp (mt sound.notMem_holders.mp absent)), Nat.add_zero]

/-- A deregistration takes the instance from the holders. -/
theorem Sound.holders_deregister (sound : registry.Sound) (service id : String) :
    (registry.deregister service id).2.holders = registry.holders.erase (service, id) := by
  ext ⟨other, key⟩
  rw [Finset.mem_erase, (sound.deregister service id).mem_holders, sound.mem_holders, lease?,
    sound.get?_deregister, ← lease?]
  by_cases same : (service, id) = (other, key)
  · simp [same]
  · simp [same, Ne.symm same]

theorem Sound.deregister_fst_iff (sound : registry.Sound) :
    (registry.deregister service id).1 = true ↔ (service, id) ∈ registry.holders := by
  rw [deregister_fst, sound.mem_holders]
  exact Option.isSome_iff_exists

theorem Sound.size_deregister (sound : registry.Sound) (service id : String) :
    (registry.deregister service id).2.size + (if (registry.deregister service id).1 then 1 else 0) =
      registry.size := by
  rw [← (sound.deregister service id).card_holders, ← sound.card_holders, sound.holders_deregister]
  by_cases held : (service, id) ∈ registry.holders
  · rw [if_pos (sound.deregister_fst_iff.mpr held), Finset.card_erase_add_one held]
  · rw [if_neg (mt sound.deregister_fst_iff.mp held), Finset.erase_eq_of_notMem held, Nat.add_zero]

/-- A prune keeps the holders whose leases hold. -/
theorem Sound.mem_holders_prune (sound : registry.Sound) (now : Nanos) :
    (service, id) ∈ (registry.prune now).2.holders ↔
      ∃ lease, registry.lease? service id = some lease ∧ now < lease.expires := by
  rw [(sound.prune now).mem_holders, lease?, sound.get?_prune, ← lease?]
  simp only [Option.filter_eq_some_iff, Lease.holds, decide_eq_true_eq]

/-- The instances whose leases a prune takes out. -/
def lapsed (registry : Registry) (now : Nanos) : Finset (String × String) :=
  registry.holders \ (registry.prune now).2.holders

theorem Sound.mem_lapsed (sound : registry.Sound) (now : Nanos) :
    (service, id) ∈ registry.lapsed now ↔
      ∃ expires, registry.LeasedUntil service id expires ∧ expires ≤ now := by
  rw [lapsed, Finset.mem_sdiff, sound.mem_holders, sound.mem_holders_prune]
  constructor
  · rintro ⟨⟨lease, found⟩, dropped⟩
    exact ⟨lease.expires, ⟨lease, found, rfl⟩, Nat.le_of_not_lt fun holds => dropped ⟨lease, found, holds⟩⟩
  · rintro ⟨-, ⟨lease, found, rfl⟩, ended⟩
    refine ⟨⟨lease, found⟩, ?_⟩
    rintro ⟨same, also, holds⟩
    cases found.symm.trans also
    exact Nat.not_lt_of_le ended holds

theorem Sound.holders_prune_subset (sound : registry.Sound) (now : Nanos) :
    (registry.prune now).2.holders ⊆ registry.holders := by
  rintro ⟨service, id⟩ there
  obtain ⟨lease, found, -⟩ := (sound.mem_holders_prune now).mp there
  exact sound.mem_holders.mpr ⟨lease, found⟩

/-- A prune gives the number of leases that it takes out. -/
theorem Sound.prune_fst (sound : registry.Sound) (now : Nanos) :
    (registry.prune now).1 = (registry.lapsed now).card := by
  rw [lapsed, Finset.card_sdiff_of_subset (sound.holders_prune_subset now), sound.card_holders,
    (sound.prune now).card_holders]
  rfl

theorem Sound.size_prune (sound : registry.Sound) (now : Nanos) :
    (registry.prune now).2.size + (registry.prune now).1 = registry.size := by
  rw [sound.prune_fst, ← (sound.prune now).card_holders, ← sound.card_holders, Nat.add_comm, lapsed,
    Finset.card_sdiff_add_card_eq_card (sound.holders_prune_subset now)]

/-- A prune leaves no service without a lease. -/
theorem ne_nil_of_mem_prune {entry : String × Directory Lease}
    (there : entry ∈ (registry.prune now).2.services) : entry.2 ≠ [] := by
  rw [prune_services, List.mem_filter] at there
  simpa using there.2

/-! ## What a turn does to their number -/

/-- Whether a turn begins a lease: it registers an instance that has none. -/
def Turn.begins (turn : Turn) : Bool :=
  match turn.event.operation with
  | .register service instance_ =>
    turn.answer = some .registered ∧ turn.found.lease? service instance_.id = none
  | _ => false

/-- Whether a turn takes an instance out by a deregistration. -/
def Turn.takesOut (turn : Turn) : Bool := turn.answer = some (.deregistered true)

/-- How many leases a turn prunes. -/
def Turn.pruned (turn : Turn) : Nat :=
  match turn.answer with
  | some (.pruned count) => count
  | _ => 0

/-- **A turn adds the lease that it begins, and takes away those that it ends.** -/
theorem Sound.size_perform (sound : registry.Sound) (event : Event) {turn : Turn}
    (taken : turn = ⟨registry, event, (registry.perform event).1⟩) :
    (registry.perform event).2.size + ((if turn.takesOut then 1 else 0) + turn.pruned) =
      registry.size + if turn.begins then 1 else 0 := by
  subst taken
  obtain ⟨time, operation⟩ := event
  cases operation with
  | register service instance_ =>
    cases made : registry.register? time service instance_ with
    | none => simp [Registry.perform, perform?, made, Turn.takesOut, Turn.pruned, Turn.begins]
    | some next =>
      have size := sound.size_register? made
      simpa [Registry.perform, perform?, made, Turn.takesOut, Turn.pruned, Turn.begins] using size
  | deregister service id =>
    have size := sound.size_deregister service id
    simpa [Registry.perform, perform?, Turn.takesOut, Turn.pruned, Turn.begins] using size
  | live service => rfl
  | prune =>
    have size := sound.size_prune time
    simpa [Registry.perform, perform?, Turn.takesOut, Turn.pruned, Turn.begins] using size

/-- **Over a run, what was begun was ended or is there.** -/
theorem Sound.size_through (sound : registry.Sound) (history : List Event) :
    (registry.through history).size + ((registry.turns history).countP Turn.takesOut +
        ((registry.turns history).map Turn.pruned).sum) =
      registry.size + (registry.turns history).countP Turn.begins := by
  induction history generalizing registry with
  | nil => rfl
  | cons event rest ih =>
    have step := sound.size_perform event rfl
    have later := ih (sound.perform event)
    rw [turns, List.countP_cons, List.countP_cons, List.map_cons, List.sum_cons]
    show ((registry.perform event).2.through rest).size + _ = _
    omega

/-! ## Over a history -/

theorem mem_holders_through :
    (service, id) ∈ (through { ttl } history).holders ↔ ∃ since, Held ttl history service id since := by
  rw [((sound_empty ttl).through history).mem_holders_iff_leasedUntil]
  simp only [leasedUntil_through_iff]
  constructor
  · rintro ⟨_, since, held, -⟩
    exact ⟨since, held⟩
  · rintro ⟨since, held⟩
    exact ⟨_, since, held, rfl⟩

theorem mem_lapsed_through :
    (service, id) ∈ (through { ttl } history).lapsed now ↔
      ∃ since, Held ttl history service id since ∧ since + ttl ≤ now := by
  rw [((sound_empty ttl).through history).mem_lapsed]
  simp only [leasedUntil_through_iff]
  constructor
  · rintro ⟨_, ⟨since, held, rfl⟩, ended⟩
    exact ⟨since, held, ended⟩
  · rintro ⟨since, held, ended⟩
    exact ⟨_, ⟨since, held, rfl⟩, ended⟩

/-- **Every lease ends once.** After every history, of operations at any times:

* a prune gives the number of the instances whose lease has run out, counted as pairs of a service and an
  id, and leaves no service without a lease;
* a deregistration gives true exactly for an instance that has a lease, run out or not;
* a registration finds a lease exactly where the instance has one, by the history;
* the leases that were begun are as many as the deregistrations that took one out, the leases that prunes
  took out and the leases in the table, together; and those in the table are the leases of the history. -/
theorem every_lease_ends_once (ttl : Nanos) (history : List Event) :
    (∀ now, ∃ lapsed : Finset (String × String),
      (∀ service id, (service, id) ∈ lapsed ↔
        ∃ since, Held ttl history service id since ∧ since + ttl ≤ now) ∧
      ∃ next, (through { ttl } history).perform ⟨now, .prune⟩ = (some (.pruned lapsed.card), next) ∧
        ∀ entry ∈ next.services, entry.2 ≠ []) ∧
    (∀ now service id, ∃ there,
      ((through { ttl } history).perform ⟨now, .deregister service id⟩).1 = some (.deregistered there) ∧
        (there = true ↔ ∃ since, Held ttl history service id since)) ∧
    (∀ service id, (through { ttl } history).lease? service id ≠ none ↔
      ∃ since, Held ttl history service id since) ∧
    (turns { ttl } history).countP Turn.begins =
      (turns { ttl } history).countP Turn.takesOut + ((turns { ttl } history).map Turn.pruned).sum +
        (through { ttl } history).size ∧
    ∃ held : Finset (String × String),
      (∀ service id, (service, id) ∈ held ↔ ∃ since, Held ttl history service id since) ∧
      (through { ttl } history).size = held.card := by
  have sound : (through { ttl } history).Sound := (sound_empty ttl).through history
  have holds (service id : String) : (service, id) ∈ (through { ttl } history).holders ↔
      ∃ since, Held ttl history service id since := mem_holders_through
  refine ⟨?pruned, ?deregistered, ?found, ?counted, _, holds, sound.card_holders.symm⟩
  case pruned =>
    intro now
    refine ⟨(through { ttl } history).lapsed now, fun _ _ => mem_lapsed_through,
      ((through { ttl } history).prune now).2, ?_, fun _ => ne_nil_of_mem_prune⟩
    rw [← sound.prune_fst]
    rfl
  case deregistered =>
    intro now service id
    refine ⟨((through { ttl } history).deregister service id).1, rfl, ?_⟩
    rw [sound.deregister_fst_iff, holds]
  case found =>
    intro service id
    rw [← holds, Ne, ← sound.notMem_holders, not_not]
  case counted =>
    have balance := (sound_empty ttl).size_through history
    have nothing : ({ ttl } : Registry).size = 0 := rfl
    omega

-- renewed when it has run out, and pruned when it has done so again; and taken out when it has run out
example : (turns { ttl := 10 } [⟨0, .register "judge" ⟨"first", "here"⟩⟩,
      ⟨11, .register "judge" ⟨"first", "there"⟩⟩, ⟨12, .register "judge" ⟨"second", "next"⟩⟩, ⟨21, .prune⟩,
      ⟨30, .deregister "judge" "second"⟩]).map (fun turn => (turn.begins, turn.takesOut, turn.pruned)) =
    [(true, false, 0), (false, false, 0), (true, false, 0), (false, false, 1), (false, true, 0)] := by
  decide +kernel

end CodeJudge.Registry
