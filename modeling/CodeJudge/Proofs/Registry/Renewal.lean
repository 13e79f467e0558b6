import CodeJudge.Proofs.Registry.Leaving
import Mathlib.Data.Nat.Find

/-!
# How long a lease is kept

An announcer registers when it starts and at every multiple of its period, and a registration is made where
the registry is reached at that time. In between nothing is tried: whether the registry is reached there
plays no part.

**The law** (`lapse_of_missed_beats`): as long as it announces, an instance is listed exactly while the span
of a registration that was made runs. So it drops out once the registry has not been reached at any beat for
a whole span since the last one that was, whatever others do with the registry meanwhile, as long as they
leave the instance alone.

The registry need not be out of reach for a whole span between those beats. With a period of five seconds and
a span of fifteen, ten seconds are enough (`lapse_in_short_outage`).
-/

namespace CodeJudge.Registry

/-! ## What is listed -/

section

variable {registry : Registry} {service : String} {instance_ : Instance} {event : Event} {events : List Event}
variable {now : Nanos}

/-- An instance is listed while it has a lease that runs, with its address. -/
theorem Sound.mem_live (sound : registry.Sound) :
    instance_ ∈ registry.live now service ↔
      ∃ lease, registry.lease? service instance_.id = some lease ∧ now < lease.expires ∧
        lease.address = instance_.address := by
  rw [Registry.mem_live]
  simp only [lease?, (sound.leases service).get?_eq_some, Lease.holds, decide_eq_true_eq]

/-- What happens in the past of a time leaves alone whether an instance is listed then, unless it is about
that instance. -/
theorem Sound.mem_live_perform (sound : registry.Sound) (past : event.time ≤ now)
    (away : event.operation.aim? ≠ some (service, instance_.id)) :
    instance_ ∈ (registry.perform event).2.live now service ↔ instance_ ∈ registry.live now service := by
  have other : ¬ event.operation.Registers service instance_.id := by
    rintro ⟨address, registers⟩
    rw [registers] at away
    exact away rfl
  rw [(sound.perform event).mem_live, sound.mem_live]
  refine exists_congr fun lease => ?_
  rw [sound.lease?_perform other, and_assoc]
  refine and_congr_right fun _ => and_iff_right_of_imp ?_
  -- what is pruned by now does not run now
  rintro ⟨running, -⟩ (deregisters | ⟨-, expired⟩)
  · rw [deregisters] at away
    exact away rfl
  · exact absurd (Nat.lt_of_lt_of_le running expired) (Nat.not_lt.mpr past)

theorem Sound.mem_live_through (sound : registry.Sound)
    (quiet : ∀ event ∈ events, event.time ≤ now ∧ event.operation.aim? ≠ some (service, instance_.id)) :
    instance_ ∈ (registry.through events).live now service ↔ instance_ ∈ registry.live now service := by
  induction events generalizing registry with
  | nil => rfl
  | cons event rest ih =>
    obtain ⟨⟨past, away⟩, quiet⟩ := List.forall_mem_cons.mp quiet
    exact (ih (sound.perform event) quiet).trans (sound.mem_live_perform past away)

end

/-! ## Along the beats -/

/-- The registry after a beat of an announcer. -/
def afterBeat (service : String) (instance_ : Instance) (registry : Registry) (call : Occasion) : Registry :=
  let found := registry.through call.meanwhile
  if call.delivery = .undelivered then found
  else (found.register? call.now service instance_).getD found

section

variable {registry : Registry} {service : String} {instance_ : Instance} {call : Occasion} {now : Nanos}
variable {made : List Occasion}

/-- A beat does to the registry what its registration does. -/
theorem beat_run_registry (registered : Bool) (ahead : List Occasion) :
    (((membership service instance_).beat registered).run ⟨registry, call :: ahead⟩).2 =
      ⟨registry.afterBeat service instance_ call, ahead⟩ := by
  have came : ((register service instance_).run ⟨registry, call :: ahead⟩).2 =
      ⟨registry.afterBeat service instance_ call, ahead⟩ := by
    show (register service instance_ ⟨registry, call :: ahead⟩).2 = _
    simp only [register, afterBeat]
    cases call.delivery <;>
      cases (registry.through call.meanwhile).register? call.now service instance_ <;> rfl
  simp only [Membership.beat, membership, run_bind, came]
  cases ((register service instance_).run ⟨registry, call :: ahead⟩).1 <;> rfl

/-- So many beats do so one after another. -/
theorem beats_run_registry (registry : Registry) (service : String) (instance_ : Instance) (registered : Bool)
    (count : Nat) (ahead : List Occasion) :
    (((membership service instance_).beats registered count).run ⟨registry, ahead⟩).2 =
      ⟨(ahead.take count).foldl (afterBeat service instance_) registry, ahead.drop count⟩ := by
  induction count generalizing registered registry ahead with
  | zero => rfl
  | succ count ih =>
    rw [Membership.beats, run_bind]
    cases ahead with
    | nil =>
      rw [beat_run_nil, ih, List.take_nil, List.take_nil, List.drop_nil, List.drop_nil]
    | cons call rest => rw [beat_run_registry, ih, List.take_succ_cons, List.foldl_cons, List.drop_succ_cons]

/-- A beat that is made registers the instance. -/
theorem register?_afterBeat (service : String) (instance_ : Instance) (applied : call.Applied registry.ttl) :
    (registry.through call.meanwhile).register? call.now service instance_ =
      some (registry.afterBeat service instance_ call) := by
  have fits : call.now + (registry.through call.meanwhile).ttl < endOfTime := by
    rw [ttl_through]
    exact applied.2
  have came : (registry.through call.meanwhile).register? call.now service instance_ = some _ :=
    register?_eq_some.mpr ⟨fits, rfl⟩
  simp only [afterBeat, applied.1, ↓reduceIte, came, Option.getD_some]

/-- A beat that is not made leaves what others have done. -/
theorem afterBeat_of_not_applied (other : ¬ call.Applied registry.ttl) :
    registry.afterBeat service instance_ call = registry.through call.meanwhile := by
  simp only [afterBeat]
  split
  · rfl
  · rename_i delivered
    have late : ¬ call.now + (registry.through call.meanwhile).ttl < endOfTime := by
      rw [ttl_through]
      exact fun fits => other ⟨delivered, fits⟩
    rw [register?, if_neg late, Option.getD_none]

theorem Sound.afterBeat (sound : registry.Sound) (call : Occasion) :
    (registry.afterBeat service instance_ call).Sound := by
  by_cases applied : call.Applied registry.ttl
  · exact (sound.through _).register? (register?_afterBeat _ _ applied)
  · rw [afterBeat_of_not_applied applied]
    exact sound.through _

theorem ttl_afterBeat (registry : Registry) (call : Occasion) :
    (registry.afterBeat service instance_ call).ttl = registry.ttl := by
  by_cases applied : call.Applied registry.ttl
  · exact (ttl_of_register? (register?_afterBeat _ _ applied)).trans (ttl_through ..)
  · rw [afterBeat_of_not_applied applied, ttl_through]

/-- A beat that is made lets its instance be listed for a span. -/
theorem Sound.mem_live_of_applied (sound : registry.Sound) (applied : call.Applied registry.ttl) :
    instance_ ∈ (registry.afterBeat service instance_ call).live now service ↔
      now < call.now + registry.ttl := by
  have found := get?_of_register? (register?_afterBeat service instance_ applied) service instance_.id
  rw [if_pos rfl, ttl_through] at found
  rw [(sound.afterBeat call).mem_live, lease?, found]
  simp only [Option.some.injEq, exists_eq_left', and_true]

/-- A beat that is not made leaves its instance listed or not. -/
theorem Sound.mem_live_of_not_applied (sound : registry.Sound) (other : ¬ call.Applied registry.ttl)
    (quiet : ∀ event ∈ call.meanwhile, event.time ≤ now ∧ event.operation.aim? ≠ some (service, instance_.id)) :
    instance_ ∈ (registry.afterBeat service instance_ call).live now service ↔
      instance_ ∈ registry.live now service := by
  rw [afterBeat_of_not_applied other]
  exact sound.mem_live_through quiet

/-- **After beats one after another**, an instance that was not registered before is listed while the span of
one that was made runs. -/
theorem Sound.mem_live_afterBeats (sound : registry.Sound) (fresh : registry.lease? service instance_.id = none)
    (ordered : made.Pairwise fun call later => call.now ≤ later.now)
    (quiet : ∀ call ∈ made, ∀ event ∈ call.meanwhile,
      event.time ≤ now ∧ event.operation.aim? ≠ some (service, instance_.id)) :
    (made.foldl (Registry.afterBeat service instance_) registry).Sound ∧
      (made.foldl (Registry.afterBeat service instance_) registry).ttl = registry.ttl ∧
      (instance_ ∈ (made.foldl (Registry.afterBeat service instance_) registry).live now service ↔
        ∃ call ∈ made, call.Applied registry.ttl ∧ now < call.now + registry.ttl) := by
  induction made using List.reverseRecOn with
  | nil =>
    refine ⟨sound, rfl, iff_of_false ?_ nofun⟩
    rw [List.foldl_nil, sound.mem_live]
    rintro ⟨lease, held, -⟩
    cases fresh.symm.trans held
  | append_singleton made call ih =>
    rw [List.pairwise_append] at ordered
    rw [List.forall_mem_append, List.forall_mem_singleton] at quiet
    obtain ⟨before, span, listed⟩ := ih ordered.1 quiet.1
    rw [List.foldl_append, List.foldl_cons, List.foldl_nil]
    refine ⟨before.afterBeat call, (ttl_afterBeat ..).trans span, ?_⟩
    simp only [List.mem_append, List.mem_singleton, or_and_right, exists_or, exists_eq_left]
    by_cases applied : call.Applied registry.ttl
    · -- no beat before runs longer
      rw [before.mem_live_of_applied (span ▸ applied), span]
      refine ⟨fun running => .inr ⟨applied, running⟩, ?_⟩
      rintro (⟨earlier, mem, -, running⟩ | ⟨-, running⟩)
      · have sooner : earlier.now ≤ call.now := ordered.2.2 earlier mem call (List.mem_singleton_self call)
        exact Nat.lt_of_lt_of_le running (Nat.add_le_add_right sooner _)
      · exact running
    · rw [before.mem_live_of_not_applied (span ▸ applied) quiet.2, listed, or_iff_left fun made => applied made.1]

end

/-! ## An announcer on its own clock -/

/-- What an announcer's registrations meet with. -/
structure Heartbeat where
  /-- The time from one beat to the next. The first is at time zero. -/
  period : Nanos
  /-- Whether the registry is reached at a time. -/
  reached : Nanos → Bool
  /-- What others do with the registry between the beat before and this one. -/
  meanwhile : Nat → List Event := fun _ => []

namespace Heartbeat

/-- The time of a beat. -/
def time (heart : Heartbeat) (beat : Nat) : Nanos := beat * heart.period

/-- The occasion that a beat has for its registration. -/
def occasion (heart : Heartbeat) (beat : Nat) : Occasion where
  meanwhile := heart.meanwhile beat
  now := heart.time beat
  delivery := if heart.reached (heart.time beat) then .answered else .undelivered

/-- The occasions of the beats up to one. -/
def occasions (heart : Heartbeat) (count : Nat) : List Occasion := (List.range count).map heart.occasion

/-- A beat whose registration is made. -/
def Renews (heart : Heartbeat) (ttl : Nanos) (beat : Nat) : Prop :=
  heart.reached (heart.time beat) = true ∧ heart.time beat + ttl < endOfTime

variable {heart : Heartbeat} {beat later count : Nat} {ttl : Nanos}

theorem applied_occasion : (heart.occasion beat).Applied ttl ↔ heart.Renews ttl beat := by
  unfold Occasion.Applied Renews occasion
  cases heart.reached (heart.time beat) <;> simp

theorem time_le_time (sooner : beat ≤ later) : heart.time beat ≤ heart.time later :=
  Nat.mul_le_mul_right _ sooner

theorem length_occasions (heart : Heartbeat) (count : Nat) : (heart.occasions count).length = count := by
  rw [occasions, List.length_map, List.length_range]

theorem mem_occasions {call : Occasion} :
    call ∈ heart.occasions count ↔ ∃ beat < count, heart.occasion beat = call := by
  simp only [occasions, List.mem_map, List.mem_range]

/-- Of the beats that are made, one is the last. -/
theorem exists_last (renewed : ∃ beat < count, heart.Renews ttl beat) :
    ∃ last < count, heart.Renews ttl last ∧ ∀ beat < count, last < beat → ¬ heart.Renews ttl beat := by
  classical
  obtain ⟨beat, due, renews⟩ := renewed
  have least : beat ≤ count - 1 := by omega
  have bound := Nat.findGreatest_le (P := heart.Renews ttl) (count - 1)
  refine ⟨Nat.findGreatest (heart.Renews ttl) (count - 1), by omega, Nat.findGreatest_spec least renews, ?_⟩
  intro other within after
  exact Nat.findGreatest_is_greatest after (by omega)

theorem ordered_occasions : (heart.occasions count).Pairwise fun call later => call.now ≤ later.now := by
  rw [occasions, List.pairwise_map]
  exact List.pairwise_lt_range.imp fun before => time_le_time (Nat.le_of_lt before)

end Heartbeat

/-- **A lease lapses at beats that are missed.** An announcer has come to `count` beats, and no other is due
before `now`. Its instance is listed exactly if the span of a registration that was made runs. If none does,
though there was one, then the span of the last of them has passed, and no beat since has made one: so many
they were that, with the beat that is next, they take up a span. -/
theorem lapse_of_missed_beats {heart : Heartbeat} {registry : Registry} {service : String} {instance_ : Instance}
    {count : Nat} {now : Nanos} {later : List Event} (sound : registry.Sound)
    (fresh : registry.lease? service instance_.id = none) (due : now ≤ heart.time count)
    (others : ∀ beat < count, ∀ event ∈ heart.meanwhile beat,
      event.time ≤ now ∧ event.operation.aim? ≠ some (service, instance_.id))
    (since : ∀ event ∈ later, event.time ≤ now ∧ event.operation.aim? ≠ some (service, instance_.id)) :
    ∃ believes after,
      ((membership service instance_).beats false count).run ⟨registry, heart.occasions count⟩ =
        (believes, ⟨after, []⟩) ∧
      (instance_ ∈ (after.through later).live now service ↔
        ∃ beat < count, heart.Renews registry.ttl beat ∧ now < heart.time beat + registry.ttl) ∧
      (instance_ ∉ (after.through later).live now service →
        (∃ beat < count, heart.Renews registry.ttl beat) →
        ∃ last < count, heart.Renews registry.ttl last ∧ heart.time last + registry.ttl ≤ now ∧
          (∀ beat < count, last < beat → ¬ heart.Renews registry.ttl beat) ∧
          registry.ttl ≤ (count - last) * heart.period) := by
  have quiet : ∀ call ∈ heart.occasions count, ∀ event ∈ call.meanwhile,
      event.time ≤ now ∧ event.operation.aim? ≠ some (service, instance_.id) := by
    intro call mem
    obtain ⟨beat, within, rfl⟩ := Heartbeat.mem_occasions.mp mem
    exact others beat within
  obtain ⟨found, -, renewed⟩ := sound.mem_live_afterBeats fresh Heartbeat.ordered_occasions quiet
  have ran := beats_run_registry registry service instance_ false count (heart.occasions count)
  have whole := Nat.le_of_eq (heart.length_occasions count)
  rw [List.take_of_length_le whole, List.drop_of_length_le whole] at ran
  have listed := (found.mem_live_through since).trans renewed
  simp only [Heartbeat.mem_occasions, exists_exists_and_eq_and, Heartbeat.applied_occasion] at listed
  refine ⟨_, _, Prod.ext rfl ran, listed, fun lapsed some_ => ?_⟩
  obtain ⟨last, within, renews, greatest⟩ := Heartbeat.exists_last some_
  have ended : heart.time last + registry.ttl ≤ now :=
    Nat.not_lt.mp fun running => lapsed (listed.mpr ⟨last, within, renews, running⟩)
  refine ⟨last, within, renews, ended, greatest, ?_⟩
  rw [Nat.sub_mul]
  exact Nat.le_sub_of_add_le' (ended.trans due)

/-- The registry is out of reach for ten seconds, which two beats and the one at the end of the span fall
into. -/
def shortOutage : Heartbeat where
  period := Nanos.ofSeconds 5
  reached time := time < Nanos.ofSeconds 5 || Nanos.ofSeconds 15 < time
  meanwhile beat := if beat = 1 then [⟨Nanos.ofSeconds 4, .prune⟩] else []

theorem lapse_of_missed_beats_shortOutage :
    ∃ believes after,
      ((membership "judge-worker" ⟨"w", "here:1"⟩).beats false 4).run
          ⟨{ ttl := Nanos.ofSeconds 15 }, shortOutage.occasions 4⟩ = (believes, ⟨after, []⟩) ∧
      ⟨"w", "here:1"⟩ ∉ (after.through [⟨Nanos.ofSeconds 16, .prune⟩]).live (Nanos.ofSeconds 16) "judge-worker" ∧
      ∃ last < 4, shortOutage.Renews (Nanos.ofSeconds 15) last ∧
        shortOutage.time last + Nanos.ofSeconds 15 ≤ Nanos.ofSeconds 16 ∧
        ∀ beat < 4, last < beat → ¬ shortOutage.Renews (Nanos.ofSeconds 15) beat := by
  have fresh : Registry.lease? { ttl := Nanos.ofSeconds 15 } "judge-worker"
      (⟨"w", "here:1"⟩ : Instance).id = none := rfl
  have others : ∀ beat < 4, ∀ event ∈ shortOutage.meanwhile beat, event.time ≤ Nanos.ofSeconds 16 ∧
      event.operation.aim? ≠ some ("judge-worker", "w") := by
    decide
  have since : ∀ event ∈ [Event.mk (Nanos.ofSeconds 16) .prune], event.time ≤ Nanos.ofSeconds 16 ∧
      event.operation.aim? ≠ some ("judge-worker", "w") := by
    decide
  obtain ⟨believes, after, ran, listed, lapsed⟩ :=
    lapse_of_missed_beats (sound_empty (Nanos.ofSeconds 15)) fresh (by decide) others since
  have gone : ¬ ∃ beat < 4, shortOutage.Renews (Nanos.ofSeconds 15) beat ∧
      Nanos.ofSeconds 16 < shortOutage.time beat + Nanos.ofSeconds 15 := by
    unfold Heartbeat.Renews
    decide
  have first : shortOutage.Renews (Nanos.ofSeconds 15) 0 := ⟨by decide, by decide⟩
  have absent := mt listed.mp gone
  obtain ⟨last, within, renews, ended, none, -⟩ := lapsed absent ⟨0, by decide, first⟩
  exact ⟨believes, after, ran, absent, last, within, renews, ended, none⟩

/-- **A lease lapses while the registry is out of reach for less than a span**: it is so for ten seconds, the
instance is gone after fifteen, and in no fifteen seconds by then the registry has not been reached. -/
theorem lapse_in_short_outage :
    let announced := ((membership "judge-worker" ⟨"w", "here:1"⟩).beats false 4).run
      ⟨{ ttl := Nanos.ofSeconds 15 }, shortOutage.occasions 4⟩
    shortOutage.Renews (Nanos.ofSeconds 15) 0 ∧
      announced.2.registry.live (Nanos.ofSeconds 16) "judge-worker" = [] ∧
      ¬ ∃ start, start + Nanos.ofSeconds 15 ≤ Nanos.ofSeconds 16 ∧
        ∀ time, start ≤ time → time < start + Nanos.ofSeconds 15 → shortOutage.reached time = false := by
  refine ⟨⟨by decide, by decide⟩, by decide +kernel, ?_⟩
  rintro ⟨start, ends, silent⟩
  -- it would have begun within a second, when the registry was reached
  have soon (start : Nat) (ends : start + 15000000000 ≤ 16000000000) : start < 5000000000 := by omega
  have begun : start < Nanos.ofSeconds 5 := soon start ends
  have reached : shortOutage.reached start = true := by simp [shortOutage, begun]
  rw [silent start (Nat.le_refl _) (Nat.lt_add_of_pos_right (by decide))] at reached
  cases reached

end CodeJudge.Registry
