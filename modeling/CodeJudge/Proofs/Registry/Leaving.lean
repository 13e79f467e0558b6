import CodeJudge.Proofs.Actions
import CodeJudge.Proofs.Registry.Pruning
import CodeJudge.Registry.Announcer

/-!
# What an announcer leaves behind

An announcer is told to stop, and takes back what it has registered. What it knows of its registrations is
what it was answered, and an answer can be lost: then the registry has made the registration, and the
announcer takes it for one that has failed. Here its calls go over a `Line` on which each of them comes
through with its answer, comes through without, or does not come through, while others go on working with
the registry.

**The law** (`lease_after_announcing`): when an announcer has come to its end without a failure, its lease
is in the registry exactly when no registration was answered, some came through, and the lease of the last
that did has been neither taken out nor pruned since. So an announcer that has had one answer leaves nothing
behind, and one whose only registrations lost their answers does: it takes nothing back
(`announcer_leaves_lease`).

**What it does not establish.** Anything of a call that reaches the registry only after the announcer has
given up waiting for it.
-/

namespace CodeJudge.Registry

/-! ## The lease of one instance -/

/-- The lease of an instance, whether it holds or not. -/
def lease? (registry : Registry) (service id : String) : Option Lease := (registry.leases service).get? id

/-- The instance has a lease that runs out at a time. -/
def LeasedUntil (registry : Registry) (service id : String) (expires : Nanos) : Prop :=
  ∃ lease, registry.lease? service id = some lease ∧ lease.expires = expires

/-- The registry after what others do with it. -/
def through (registry : Registry) (events : List Event) : Registry :=
  events.foldl (fun registry event => (registry.perform event).2) registry

/-- The operation registers the instance. -/
def Operation.Registers (operation : Operation) (service id : String) : Prop :=
  ∃ address, operation = .register service ⟨id, address⟩

/-- What happens takes out a lease of the instance that runs out at a time. -/
def Event.Ends (event : Event) (service id : String) (expires : Nanos) : Prop :=
  event.operation = .deregister service id ∨ event.operation = .prune ∧ expires ≤ event.time

section

variable {registry : Registry} {service id : String} {event : Event} {events : List Event} {expires : Nanos}

/-- A registration that has no result leaves the table as it is. -/
theorem perform_register (registry : Registry) (time : Nanos) (service : String) (instance_ : Instance) :
    (registry.perform ⟨time, .register service instance_⟩).2 =
      (registry.register? time service instance_).getD registry := by
  simp only [perform, perform?]
  cases registry.register? time service instance_ <;> rfl

theorem Sound.perform (sound : registry.Sound) (event : Event) : (registry.perform event).2.Sound := by
  obtain ⟨time, operation⟩ := event
  cases operation with
  | register service instance_ =>
    rw [perform_register]
    cases made : registry.register? time service instance_ with
    | none => exact sound
    | some next => exact sound.register? made
  | deregister service id => exact sound.deregister service id
  | live service => exact sound
  | prune => exact sound.prune time

theorem ttl_perform (registry : Registry) (event : Event) : (registry.perform event).2.ttl = registry.ttl := by
  obtain ⟨time, operation⟩ := event
  cases operation with
  | register service instance_ =>
    rw [perform_register]
    cases made : registry.register? time service instance_ with
    | none => rfl
    | some next => exact ttl_of_register? made
  | deregister service id => exact ttl_deregister registry service id
  | live service => rfl
  | prune => rfl

/-- What does not register an instance leaves the lease that it has, or takes it out. -/
theorem Sound.lease?_perform (sound : registry.Sound) (other : ¬ event.operation.Registers service id)
    {lease : Lease} :
    (registry.perform event).2.lease? service id = some lease ↔
      registry.lease? service id = some lease ∧ ¬ event.Ends service id lease.expires := by
  obtain ⟨time, operation⟩ := event
  cases operation with
  | register service_ instance_ =>
    have away : (service_, instance_.id) ≠ (service, id) := by
      rintro ⟨⟩
      exact other ⟨instance_.address, rfl⟩
    rw [perform_register]
    cases made : registry.register? time service_ instance_ with
    | none => simp [Event.Ends]
    | some next => simp [Event.Ends, lease?, get?_of_register? made, away]
  | deregister service_ id_ =>
    have taken : (registry.deregister service_ id_).2.lease? service id =
        if (service_, id_) = (service, id) then none else registry.lease? service id :=
      sound.get?_deregister service_ id_ service id
    show (registry.deregister service_ id_).2.lease? service id = some lease ↔ _
    rw [taken]
    by_cases same : (service_, id_) = (service, id)
    · cases same
      simp [Event.Ends]
    · rw [if_neg same]
      rw [Prod.mk.injEq] at same
      simp [Event.Ends, same]
  | live service_ => simp [Event.Ends, Registry.perform, perform?]
  | prune =>
    have kept : (registry.prune time).2.lease? service id =
        (registry.lease? service id).filter fun lease => lease.holds time :=
      sound.get?_prune time service id
    show (registry.prune time).2.lease? service id = some lease ↔ _
    rw [kept, Option.filter_eq_some_iff]
    simp [Event.Ends, Lease.holds]

theorem Sound.leasedUntil_perform (sound : registry.Sound) (other : ¬ event.operation.Registers service id) :
    (registry.perform event).2.LeasedUntil service id expires ↔
      registry.LeasedUntil service id expires ∧ ¬ event.Ends service id expires := by
  simp only [LeasedUntil, sound.lease?_perform other]
  constructor
  · rintro ⟨lease, ⟨held, stays⟩, rfl⟩
    exact ⟨⟨lease, held, rfl⟩, stays⟩
  · rintro ⟨⟨lease, held, rfl⟩, stays⟩
    exact ⟨lease, ⟨held, stays⟩, rfl⟩

theorem Sound.through (sound : registry.Sound) (events : List Event) : (registry.through events).Sound := by
  induction events generalizing registry with
  | nil => exact sound
  | cons event rest ih => exact ih (sound.perform event)

theorem ttl_through (registry : Registry) (events : List Event) :
    (registry.through events).ttl = registry.ttl := by
  induction events generalizing registry with
  | nil => rfl
  | cons event rest ih => exact (ih (registry.perform event).2).trans (ttl_perform registry event)

/-- A lease comes through what others do when nothing of it takes the lease out. -/
theorem Sound.leasedUntil_through (sound : registry.Sound)
    (others : ∀ event ∈ events, ¬ event.operation.Registers service id) :
    (registry.through events).LeasedUntil service id expires ↔
      registry.LeasedUntil service id expires ∧ ∀ event ∈ events, ¬ event.Ends service id expires := by
  induction events generalizing registry with
  | nil => exact (and_iff_left nofun).symm
  | cons event rest ih =>
    obtain ⟨here, others⟩ := List.forall_mem_cons.mp others
    rw [List.forall_mem_cons, ← and_assoc, ← sound.leasedUntil_perform here]
    exact ih (sound.perform event) others

end

/-! ## Calls that can be lost -/

/-- What becomes of a call on its way. -/
inductive Delivery
  | answered
  /-- The registry does what it is asked for, and the caller does not hear of it. -/
  | unanswered
  | undelivered
  deriving DecidableEq, Repr

/-- An occasion for a call. -/
structure Occasion where
  /-- What others do with the registry since the call before. -/
  meanwhile : List Event := []
  /-- When the call comes to the registry. -/
  now : Nanos
  delivery : Delivery
  /-- What the caller is told when there is no answer, or a refusal. -/
  fault : Fault := .other "operation timed out"
  deriving DecidableEq, Repr

/-- A registry, and the calls that can still be made. -/
structure Line where
  registry : Registry
  ahead : List Occasion

/-- What a caller is told when no call can be made. -/
def unreachable : Except Fault Unit := .error (.other "connection refused")

/-- Registers an instance over the line. The registry gives no answer where it has no result. -/
def register (service : String) (instance_ : Instance) : StateM Line (Except Fault Unit) := fun line =>
  match line.ahead with
  | [] => (unreachable, line)
  | call :: ahead =>
    let found := line.registry.through call.meanwhile
    match call.delivery, found.register? call.now service instance_ with
    | .answered, some registry => (.ok (), { registry, ahead })
    | .unanswered, some registry => (.error call.fault, { registry, ahead })
    | _, _ => (.error call.fault, { registry := found, ahead })

/-- Takes an instance out over the line. An instance that is not there is answered with a refusal. -/
def unregister (service id : String) : StateM Line (Except Fault Unit) := fun line =>
  match line.ahead with
  | [] => (unreachable, line)
  | call :: ahead =>
    let found := line.registry.through call.meanwhile
    let (there, registry) := found.deregister service id
    match call.delivery with
    | .answered => (if there then .ok () else .error call.fault, { registry, ahead })
    | .unanswered => (.error call.fault, { registry, ahead })
    | .undelivered => (.error call.fault, { registry := found, ahead })

/-- The membership of an instance whose calls go over the line. -/
def membership (service : String) (instance_ : Instance) : Membership Line where
  register := register service instance_
  deregister := unregister service instance_.id

/-! ## What is left of the registrations -/

namespace Occasion

/-- A registration at the occasion is made. -/
def Applied (call : Occasion) (ttl : Nanos) : Prop :=
  call.delivery ≠ .undelivered ∧ call.now + ttl < endOfTime

/-- A registration at the occasion is made, and answered. -/
def Acknowledged (call : Occasion) (ttl : Nanos) : Prop :=
  call.delivery = .answered ∧ call.now + ttl < endOfTime

end Occasion

/-- **A lease that registrations have left**: it is that of the last of them that was made, and nobody has
taken it out since. -/
def Lingers (ttl : Nanos) (service id : String) (made : List Occasion) (expires : Nanos) : Prop :=
  ∃ earlier call later, made = earlier ++ call :: later ∧ call.Applied ttl ∧ call.now + ttl = expires ∧
    ∀ other ∈ later, ¬ other.Applied ttl ∧ ∀ event ∈ other.meanwhile, ¬ event.Ends service id expires

section

variable {ttl expires : Nanos} {service id : String} {made : List Occasion} {call : Occasion}

/-- After a registration that is made, it is that one whose lease is left. -/
theorem lingers_append_applied (applied : call.Applied ttl) :
    Lingers ttl service id (made ++ [call]) expires ↔ expires = call.now + ttl := by
  constructor
  · rintro ⟨earlier, other, later, split, -, rfl, quiet⟩
    rcases List.eq_nil_or_concat later with rfl | ⟨between, last, rfl⟩
    · cases (List.append_inj' split rfl).2
      rfl
    · rw [List.concat_eq_append, ← List.cons_append, ← List.append_assoc] at split
      cases (List.append_inj' split rfl).2
      rw [List.concat_eq_append] at quiet
      exact absurd applied (quiet _ (List.mem_append_right _ List.mem_cons_self)).1
  · rintro rfl
    exact ⟨made, call, [], rfl, applied, rfl, nofun⟩

/-- A registration that is not made leaves the lease before it, if nobody has taken that out. -/
theorem lingers_append_other (other : ¬ call.Applied ttl) :
    Lingers ttl service id (made ++ [call]) expires ↔
      Lingers ttl service id made expires ∧ ∀ event ∈ call.meanwhile, ¬ event.Ends service id expires := by
  constructor
  · rintro ⟨earlier, last, later, split, applied, ends, quiet⟩
    rcases List.eq_nil_or_concat later with rfl | ⟨between, final, rfl⟩
    · cases (List.append_inj' split rfl).2
      exact absurd applied other
    · rw [List.concat_eq_append, ← List.cons_append, ← List.append_assoc] at split
      obtain ⟨rfl, same⟩ := List.append_inj' split rfl
      cases same
      rw [List.concat_eq_append, List.forall_mem_append, List.forall_mem_singleton] at quiet
      exact ⟨⟨earlier, last, between, rfl, applied, ends, quiet.1⟩, quiet.2.2⟩
  · rintro ⟨⟨earlier, last, later, rfl, applied, ends, quiet⟩, away⟩
    refine ⟨earlier, last, later ++ [call], ?_, applied, ends, ?_⟩
    · rw [List.append_assoc, List.cons_append]
    · rw [List.forall_mem_append, List.forall_mem_singleton]
      exact ⟨quiet, other, away⟩

end

/-! ## Along the beats -/

/-- **An announcer and the registry after its registrations**: it believes to be registered when one of them
was answered, and has the lease that they have left. -/
structure Followed (ttl : Nanos) (service id : String) (made : List Occasion) (registered : Bool)
    (registry : Registry) : Prop where
  span : registry.ttl = ttl
  sound : registry.Sound
  believes : registered = true ↔ ∃ call ∈ made, call.Acknowledged ttl
  lease (expires : Nanos) : registry.LeasedUntil service id expires ↔ Lingers ttl service id made expires

section

variable {ttl : Nanos} {service : String} {instance_ : Instance} {made : List Occasion} {registered : Bool}
variable {registry next : Registry} {call : Occasion}

/-- One more registration is answered, or one before it was. -/
theorem acknowledged_append :
    (∃ other ∈ made ++ [call], other.Acknowledged ttl) ↔
      (∃ other ∈ made, other.Acknowledged ttl) ∨ call.Acknowledged ttl := by
  simp only [List.mem_append, List.mem_singleton, or_and_right, exists_or, exists_eq_left]

/-- A registration that is made leaves its own lease. -/
theorem Followed.applied (followed : Followed ttl service instance_.id made registered registry)
    (applied : call.Applied ttl)
    (came : (registry.through call.meanwhile).register? call.now service instance_ = some next) :
    Followed ttl service instance_.id (made ++ [call]) (registered || call.delivery = .answered) next := by
  have span : (registry.through call.meanwhile).ttl = ttl := (ttl_through ..).trans followed.span
  refine ⟨(ttl_of_register? came).trans span, (followed.sound.through _).register? came, ?_, fun expires => ?_⟩
  · rw [acknowledged_append, Bool.or_eq_true, followed.believes, decide_eq_true_eq, Occasion.Acknowledged,
      and_iff_left applied.2]
  · rw [lingers_append_applied applied, LeasedUntil, lease?, get?_of_register? came, if_pos rfl, span]
    simp only [Option.some.injEq, exists_eq_left']
    exact eq_comm

/-- A registration that is not made leaves the lease that was there, as far as others do. -/
theorem Followed.other (followed : Followed ttl service instance_.id made registered registry)
    (other : ¬ call.Applied ttl)
    (alone : ∀ event ∈ call.meanwhile, ¬ event.operation.Registers service instance_.id) :
    Followed ttl service instance_.id (made ++ [call]) registered (registry.through call.meanwhile) where
  span := (ttl_through ..).trans followed.span
  sound := followed.sound.through _
  believes := by
    have unanswered : ¬ call.Acknowledged ttl := by
      rintro ⟨answered, fits⟩
      exact other ⟨by rw [answered]; decide, fits⟩
    rw [acknowledged_append, followed.believes, or_iff_left unanswered]
  lease expires := by
    rw [lingers_append_other other, ← followed.lease, followed.sound.leasedUntil_through alone]

/-- A registration is told to have been made where it is answered, and not otherwise. -/
theorem register_run_applied {ahead : List Occasion} (delivered : call.delivery ≠ .undelivered)
    (came : (registry.through call.meanwhile).register? call.now service instance_ = some next) :
    (register service instance_).run ⟨registry, call :: ahead⟩ =
      (if call.delivery = .answered then .ok () else .error call.fault, ⟨next, ahead⟩) := by
  show register service instance_ ⟨registry, call :: ahead⟩ = _
  simp only [register, came]
  cases how : call.delivery with
  | undelivered => exact absurd how delivered
  | _ => rfl

/-- A registration that is not made is told to have failed. -/
theorem register_run_other {ahead : List Occasion} (other : ¬ call.Applied registry.ttl) :
    (register service instance_).run ⟨registry, call :: ahead⟩ =
      (.error call.fault, ⟨registry.through call.meanwhile, ahead⟩) := by
  show register service instance_ ⟨registry, call :: ahead⟩ = _
  simp only [register]
  cases how : call.delivery with
  | undelivered => rfl
  | _ =>
    have delivered : call.delivery ≠ .undelivered := by rw [how]; decide
    have late : ¬ call.now + registry.ttl < endOfTime := fun fits => other ⟨delivered, fits⟩
    rw [← ttl_through registry call.meanwhile] at late
    simp only [register?, if_neg late]

/-- **One beat** makes a registration, and follows what has become of it. -/
theorem Followed.beat {ahead : List Occasion}
    (followed : Followed ttl service instance_.id made registered registry)
    (alone : ∀ event ∈ call.meanwhile, ¬ event.operation.Registers service instance_.id) :
    ∃ believes next,
      ((membership service instance_).beat registered).run ⟨registry, call :: ahead⟩ =
        (believes, ⟨next, ahead⟩) ∧
      Followed ttl service instance_.id (made ++ [call]) believes next := by
  by_cases applied : call.Applied ttl
  · have fits : call.now + (registry.through call.meanwhile).ttl < endOfTime := by
      rw [ttl_through, followed.span]
      exact applied.2
    have came : (registry.through call.meanwhile).register? call.now service instance_ = some _ :=
      register?_eq_some.mpr ⟨fits, rfl⟩
    refine ⟨_, _, ?_, followed.applied applied came⟩
    simp only [Membership.beat, membership, run_bind, register_run_applied applied.1 came]
    by_cases answered : call.delivery = .answered
    · simp only [answered, ↓reduceIte, run_pure, decide_true, Bool.or_true]
    · simp only [answered, ↓reduceIte, run_pure, decide_false, Bool.or_false]
  · refine ⟨_, _, ?_, followed.other applied alone⟩
    rw [← followed.span] at applied
    simp only [Membership.beat, membership, run_bind, register_run_other applied, run_pure]

/-- Without a call that can be made, a beat changes nothing. -/
theorem beat_run_nil (registered : Bool) :
    ((membership service instance_).beat registered).run ⟨registry, []⟩ = (registered, ⟨registry, []⟩) := rfl

/-- **So many beats** make a registration each, while calls can be made. -/
theorem Followed.beats {ahead : List Occasion} (count : Nat)
    (followed : Followed ttl service instance_.id made registered registry)
    (alone : ∀ call ∈ ahead, ∀ event ∈ call.meanwhile, ¬ event.operation.Registers service instance_.id) :
    ∃ believes next,
      ((membership service instance_).beats registered count).run ⟨registry, ahead⟩ =
        (believes, ⟨next, ahead.drop count⟩) ∧
      Followed ttl service instance_.id (made ++ ahead.take count) believes next := by
  induction count generalizing made registered registry ahead with
  | zero =>
    refine ⟨registered, registry, rfl, ?_⟩
    rw [List.take_zero, List.append_nil]
    exact followed
  | succ count ih =>
    cases ahead with
    | nil =>
      -- no call can be made, so that the rest of the beats are those of a shorter announcement
      obtain ⟨believes, next, ran, after⟩ := ih followed alone
      rw [List.take_nil] at after ⊢
      rw [List.drop_nil] at ran ⊢
      refine ⟨believes, next, ?_, after⟩
      rw [Membership.beats, run_bind, beat_run_nil]
      exact ran
    | cons call rest =>
      obtain ⟨here, others⟩ := List.forall_mem_cons.mp alone
      obtain ⟨between, registry_, beat, followed⟩ := followed.beat here
      obtain ⟨believes, next, ran, after⟩ := ih followed others
      refine ⟨believes, next, ?_, ?_⟩
      · rw [Membership.beats, run_bind, beat]
        exact ran
      · rw [List.take_succ_cons, ← List.singleton_append, ← List.append_assoc]
        exact after

/-! ## Leaving -/

variable {line after : Line}

/-- Before anything is registered, nothing is left. -/
theorem Followed.start (sound : registry.Sound) (fresh : registry.lease? service instance_.id = none) :
    Followed registry.ttl service instance_.id [] false registry where
  span := rfl
  sound := sound
  believes := iff_of_false Bool.false_ne_true nofun
  lease expires := by
    refine iff_of_false ?_ ?_
    · rintro ⟨lease, held, -⟩
      cases fresh.symm.trans held
    · rintro ⟨earlier, call, later, split, -⟩
      exact List.append_ne_nil_of_right_ne_nil _ (List.cons_ne_nil _ _) split.symm

/-- An instance that has been taken out has no lease. -/
theorem lease?_of_unregister {id : String} (sound : line.registry.Sound)
    (done : (unregister service id).run line = (.ok (), after)) :
    after.registry.Sound ∧ after.registry.lease? service id = none := by
  obtain ⟨registry, ahead⟩ := line
  cases ahead with
  | nil => cases done
  | cons call ahead =>
    have found := sound.through call.meanwhile
    have taken := found.get?_deregister service id service id
    rw [if_pos rfl] at taken
    change unregister service id ⟨registry, call :: ahead⟩ = _ at done
    simp only [unregister] at done
    cases how : call.delivery with
    | answered =>
      rw [how] at done
      cases (Prod.mk.inj done).2
      exact ⟨found.deregister service id, taken⟩
    | _ =>
      rw [how] at done
      cases done

/-- **The lease after announcing.** Whatever becomes of the calls of an announcer, and whatever others do
meanwhile, as long as they do not register its instance: an announcer that was never answered ends without a
failure. When an announcer has ended without one, there is a lease of its instance exactly if no registration
was answered and one has left its lease, which runs out when that one says, and has not been taken out since. -/
theorem lease_after_announcing (service : String) (instance_ : Instance) (count : Nat)
    (sound : line.registry.Sound)
    (fresh : line.registry.lease? service instance_.id = none)
    (alone : ∀ call ∈ line.ahead, ∀ event ∈ call.meanwhile,
      ¬ event.operation.Registers service instance_.id) :
    ∃ result after, ((membership service instance_).announce count).run line = (result, after) ∧
      ((∀ call ∈ line.ahead.take count, ¬ call.Acknowledged line.registry.ttl) → result = .ok ()) ∧
      (result = .ok () → ∀ later : List Event,
        (∀ event ∈ later, ¬ event.operation.Registers service instance_.id) → ∀ expires,
          (after.registry.through later).LeasedUntil service instance_.id expires ↔
          (∀ call ∈ line.ahead.take count, ¬ call.Acknowledged line.registry.ttl) ∧
            Lingers line.registry.ttl service instance_.id (line.ahead.take count) expires ∧
            ∀ event ∈ later, ¬ event.Ends service instance_.id expires) := by
  obtain ⟨believes, registry, ran, followed⟩ := (Followed.start sound fresh).beats count alone
  rw [List.nil_append] at followed
  have announced : ((membership service instance_).announce count).run line =
      ((membership service instance_).leave believes).run ⟨registry, line.ahead.drop count⟩ := by
    rw [Membership.announce, run_bind, ran]
  refine ⟨_, _, announced, ?_, ?_⟩
  · intro unanswered
    have never : believes = false := by
      rw [Bool.eq_false_iff, ne_eq, followed.believes]
      rintro ⟨call, mem, acknowledged⟩
      exact unanswered call mem acknowledged
    rw [never]
    rfl
  · intro done later others expires
    cases believes with
    | true =>
      -- one was answered, and the instance has been taken out
      obtain ⟨call, mem, acknowledged⟩ := followed.believes.mp rfl
      obtain ⟨left, none⟩ := lease?_of_unregister followed.sound (Prod.ext done rfl)
      refine iff_of_false ?_ fun ⟨unanswered, _⟩ => unanswered call mem acknowledged
      intro held
      obtain ⟨lease, held, -⟩ := ((left.leasedUntil_through others).mp held).1
      cases none.symm.trans held
    | false =>
      have unanswered : ∀ call ∈ line.ahead.take count, ¬ call.Acknowledged line.registry.ttl :=
        fun call mem acknowledged => Bool.false_ne_true (followed.believes.mpr ⟨call, mem, acknowledged⟩)
      rw [and_iff_right unanswered, ← followed.lease]
      exact followed.sound.leasedUntil_through others

end

/-- A registration comes through and loses its answer, after one that does not come through and before
another. -/
def lostAnswer : Line where
  registry := { ttl := 15 }
  ahead := [
    { now := 0, delivery := .undelivered }, { now := 5, delivery := .unanswered },
    { meanwhile := [⟨9, .prune⟩], now := 10, delivery := .undelivered }]

/-- The announcer ends without a failure, and a prune just before the lease runs out does not find it. -/
theorem lease_after_announcing_lostAnswer :
    lostAnswer.registry.Sound ∧ lostAnswer.registry.lease? "judge-worker" "w" = none ∧
      (∀ call ∈ lostAnswer.ahead, ∀ event ∈ call.meanwhile,
        ¬ event.operation.Registers "judge-worker" "w") ∧
      ∃ after, ((membership "judge-worker" ⟨"w", "here:1"⟩).announce 3).run lostAnswer = (.ok (), after) ∧
        (after.registry.through [⟨19, .prune⟩]).LeasedUntil "judge-worker" "w" 20 := by
  have sound : lostAnswer.registry.Sound := sound_empty 15
  have alone : ∀ call ∈ lostAnswer.ahead, ∀ event ∈ call.meanwhile,
      ¬ event.operation.Registers "judge-worker" "w" := by
    simp [lostAnswer, Operation.Registers]
  have unanswered : ∀ call ∈ lostAnswer.ahead.take 3, ¬ call.Acknowledged 15 := by
    simp [lostAnswer, Occasion.Acknowledged]
  have lingers : Lingers 15 "judge-worker" "w" (lostAnswer.ahead.take 3) 20 := by
    refine ⟨lostAnswer.ahead.take 1, { now := 5, delivery := .unanswered }, lostAnswer.ahead.drop 2, rfl, ?_⟩
    simp [lostAnswer, Occasion.Applied, endOfTime, Nanos.ofSeconds, Event.Ends]
  refine ⟨sound, rfl, alone, ?_⟩
  obtain ⟨result, after, ran, ends, lease⟩ :=
    lease_after_announcing "judge-worker" ⟨"w", "here:1"⟩ 3 sound rfl alone
  cases ends unanswered
  refine ⟨after, ran, (lease rfl [⟨19, .prune⟩] ?_ 20).mpr ⟨unanswered, lingers, ?_⟩⟩
  · simp [Operation.Registers]
  · simp [Event.Ends]

/-- **An announcer that was never answered can leave a lease behind**, though it has ended without a
failure. -/
theorem announcer_leaves_lease :
    let announced := ((membership "judge-worker" ⟨"w", "here:1"⟩).announce 3).run lostAnswer
    announced.1 = .ok () ∧ announced.2.registry.lease? "judge-worker" "w" = some ⟨"here:1", 20⟩ :=
  ⟨rfl, by decide⟩

end CodeJudge.Registry
