import CodeJudge.Proofs.Registry.Table
import CodeJudge.Proofs.Runs
import CodeJudge.Proofs.Text.Utf8

/-!
# The registry as a log

The table of leases is an account of a history: of the operations that were performed, at their times.
Which registration of an instance stands at the end of a history is read off the history alone: the most
recent one, unless the instance was deregistered after it (`Stands`).

**The law** (`live_of_history`): at a time that nothing in the history is later than, a service lists the
instances whose standing registration is more recent than a lease's span, in the order of the bytes of
their ids, each once and with the address that it was last registered with. It lists the same when its
registrations and deregistrations are all that ever happened: neither other services nor pruning have any
part in it.

Two things are carried along a history (`Records`): a lease is that of a standing registration, and the
lease of a standing registration is in the table until it has run out. The second is what pruning could
break, and it does not as time does not go back. Nothing is asked about how the times in the history are
ordered among themselves.
-/

namespace CodeJudge.Registry

/-- An operation of the registry. -/
inductive Operation
  | register (service : String) (instance_ : Instance)
  | deregister (service id : String)
  | live (service : String)
  | prune
  deriving DecidableEq, Repr

/-- What comes of an operation. -/
inductive Answer
  | registered
  /-- Whether the instance was there to be taken out. -/
  | deregistered (there : Bool)
  | listed (instances : List Instance)
  /-- How many leases were taken out. -/
  | pruned (count : Nat)
  deriving DecidableEq, Repr

/-- An operation at its time. -/
structure Event where
  time : Nanos
  operation : Operation
  deriving DecidableEq, Repr

/-- Performs an operation. There is no result where a registration has none. -/
def perform? (registry : Registry) (event : Event) : Option (Answer × Registry) :=
  match event.operation with
  | .register service instance_ =>
    (registry.register? event.time service instance_).map (.registered, ·)
  | .deregister service id =>
    let (there, registry) := registry.deregister service id
    some (.deregistered there, registry)
  | .live service => some (.listed (registry.live event.time service), registry)
  | .prune =>
    let (count, registry) := registry.prune event.time
    some (.pruned count, registry)

/-- The registry after an operation. -/
def next? (registry : Registry) (event : Event) : Option Registry :=
  (registry.perform? event).map Prod.snd

/-- The registry after a history. -/
def after? (registry : Registry) (history : List Event) : Option Registry :=
  history.foldlM next? registry

/-! ## What a history says -/

/-- The instance that an operation registers or takes out. -/
def Operation.aim? : Operation → Option (String × String)
  | .register service instance_ => some (service, instance_.id)
  | .deregister service id => some (service, id)
  | .live _ => none
  | .prune => none

/-- Whether an operation registers or takes out an instance of the service. -/
def Operation.concerns (service : String) (operation : Operation) : Bool :=
  operation.aim?.any fun aim => aim.1 = service

/-- A registration of the instance, with its address and time, stands at the end of a history: the
instance is neither registered again nor deregistered after it. -/
def Stands (history : List Event) (service id address : String) (since : Nanos) : Prop :=
  ∃ earlier later, history = earlier ++ ⟨since, .register service ⟨id, address⟩⟩ :: later ∧
    ∀ event ∈ later, event.operation.aim? ≠ some (service, id)

section

variable {history : List Event} {service id address : String} {since : Nanos} {event : Event}

/-- A registration stands since it was made. -/
theorem stands_iff_since :
    Stands history service id address since ↔
      Since (· = ⟨since, .register service ⟨id, address⟩⟩)
        (fun event => event.operation.aim? = some (service, id)) history := by
  constructor
  · rintro ⟨earlier, later, split, untouched⟩
    exact ⟨earlier, _, later, split, rfl, untouched⟩
  · rintro ⟨earlier, event, later, split, rfl, untouched⟩
    exact ⟨earlier, later, split, untouched⟩

theorem not_stands_nil : ¬ Stands [] service id address since := fun stands =>
  not_since_nil (stands_iff_since.mp stands)

/-- What stands after one more operation is what it registers, or what stood before unless the operation
is about the same instance. -/
theorem stands_append :
    Stands (history ++ [event]) service id address since ↔
      event = ⟨since, .register service ⟨id, address⟩⟩ ∨
      event.operation.aim? ≠ some (service, id) ∧ Stands history service id address since := by
  rw [stands_iff_since, stands_iff_since, since_append]

/-- At most one registration of an instance stands. -/
theorem Stands.unique {other : String} {then_ : Nanos} (stands : Stands history service id address since)
    (also : Stands history service id other then_) : address = other ∧ since = then_ := by
  induction history using List.reverseRecOn with
  | nil => exact absurd stands not_stands_nil
  | append_singleton history event ih =>
    rcases stands_append.mp stands with here | ⟨away, before⟩ <;>
      rcases stands_append.mp also with here' | ⟨away', before'⟩
    · cases here.symm.trans here'
      exact ⟨rfl, rfl⟩
    · rw [here] at away'
      exact absurd rfl away'
    · rw [here'] at away
      exact absurd rfl away
    · exact ih before before'

theorem Stands.mem (stands : Stands history service id address since) :
    ⟨since, .register service ⟨id, address⟩⟩ ∈ history := by
  obtain ⟨earlier, later, rfl, -⟩ := stands
  exact List.mem_append_right _ List.mem_cons_self

/-- What stands for a service is decided by what concerns the service. -/
theorem stands_filter_concerns :
    Stands (history.filter fun event => event.operation.concerns service) service id address since ↔
      Stands history service id address since := by
  induction history using List.reverseRecOn with
  | nil => rfl
  | append_singleton history event ih =>
    rw [List.filter_append, stands_append]
    by_cases concerns : event.operation.concerns service = true
    · have kept : [event].filter (fun event => event.operation.concerns service) = [event] :=
        List.filter_cons_of_pos concerns
      rw [kept, stands_append, ih]
    · have dropped : [event].filter (fun event => event.operation.concerns service) = [] :=
        List.filter_cons_of_neg concerns
      rw [dropped, List.append_nil, ih]
      have other : event.operation.aim? ≠ some (service, id) := by
        intro same
        rw [Operation.concerns, same] at concerns
        exact concerns (decide_eq_true rfl)
      have away : event ≠ ⟨since, .register service ⟨id, address⟩⟩ := by
        rintro rfl
        exact other rfl
      rw [or_iff_right away, and_iff_right other]

end

/-! ## The table as an account of the history -/

/-- The table is an account of a history, for leases of the given span. -/
structure Records (ttl : Nanos) (history : List Event) (registry : Registry) : Prop where
  span : registry.ttl = ttl
  sound : registry.Sound
  /-- A lease is that of a standing registration. -/
  registered {service id : String} {lease : Lease} : (registry.leases service).get? id = some lease →
    ∃ since, lease.expires = since + ttl ∧ Stands history service id lease.address since
  /-- A standing registration has its lease, until it has run out. -/
  held {service id address : String} {since now : Nanos} : Stands history service id address since →
    (∀ event ∈ history, event.time ≤ now) → now < since + ttl →
    (registry.leases service).get? id = some ⟨address, since + ttl⟩

namespace Records

variable {ttl now : Nanos} {history : List Event} {registry next : Registry} {service id : String}

theorem empty (ttl : Nanos) : Records ttl [] { ttl } where
  span := rfl
  sound := sound_empty ttl
  registered found := by
    rw [leases_empty, Directory.get?_nil] at found
    cases found
  held stands := absurd stands not_stands_nil

theorem register (records : Records ttl history registry) {instance_ : Instance}
    (registered : registry.register? now service instance_ = some next) :
    Records ttl (history ++ [⟨now, .register service instance_⟩]) next := by
  have found := get?_of_register? registered
  rw [records.span] at found
  refine ⟨(ttl_of_register? registered).trans records.span, records.sound.register? registered, ?_, ?_⟩
  · intro other id lease there
    rw [found] at there
    split at there
    · rename_i same
      cases same
      cases there
      exact ⟨now, rfl, stands_append.mpr (.inl rfl)⟩
    · rename_i away
      obtain ⟨since, expires, stands⟩ := records.registered there
      exact ⟨since, expires, stands_append.mpr (.inr ⟨fun aim => away (Option.some.inj aim), stands⟩)⟩
  · intro other id address since later stands past running
    rw [found]
    rcases stands_append.mp stands with here | ⟨away, before⟩
    · cases here
      rw [if_pos rfl]
    · rw [if_neg (fun aim => away (congrArg some aim))]
      exact records.held before (fun event there => past event (List.mem_append_left _ there)) running

theorem deregister (records : Records ttl history registry) (now : Nanos) (service id : String) :
    Records ttl (history ++ [⟨now, .deregister service id⟩]) (registry.deregister service id).2 := by
  have found := records.sound.get?_deregister service id
  refine ⟨(ttl_deregister ..).trans records.span, records.sound.deregister service id, ?_, ?_⟩
  · intro other key lease there
    rw [found] at there
    split at there
    · cases there
    · rename_i away
      obtain ⟨since, expires, stands⟩ := records.registered there
      exact ⟨since, expires, stands_append.mpr (.inr ⟨fun aim => away (Option.some.inj aim), stands⟩)⟩
  · intro other key address since later stands past running
    rcases stands_append.mp stands with here | ⟨away, before⟩
    · cases here
    · rw [found, if_neg (fun aim => away (congrArg some aim))]
      exact records.held before (fun event there => past event (List.mem_append_left _ there)) running

/-- An operation that is about no instance, and takes out no lease that holds, keeps the account. -/
theorem untouched (records : Records ttl history registry) {event : Event}
    (about : event.operation.aim? = none) (span : next.ttl = registry.ttl) (sound : next.Sound)
    (kept : ∀ service id, (next.leases service).get? id =
      ((registry.leases service).get? id).filter fun lease =>
        decide (event.operation = .prune → event.time < lease.expires)) :
    Records ttl (history ++ [event]) next := by
  have away {service id : String} : event.operation.aim? ≠ some (service, id) := by
    rw [about]
    exact nofun
  refine ⟨span.trans records.span, sound, ?_, ?_⟩
  · intro service id lease there
    rw [kept, Option.filter_eq_some_iff] at there
    obtain ⟨since, expires, stands⟩ := records.registered there.1
    exact ⟨since, expires, stands_append.mpr (.inr ⟨away, stands⟩)⟩
  · intro service id address since later stands past running
    rcases stands_append.mp stands with here | ⟨-, before⟩
    · rw [here] at about
      cases about
    · -- the operation is in the past of `later`, where the lease still runs
      have there := records.held before (fun event there => past event (List.mem_append_left _ there)) running
      have time := past event (List.mem_append_right _ List.mem_cons_self)
      rw [kept, there]
      exact Option.filter_some_pos (decide_eq_true fun _ => Nat.lt_of_le_of_lt time running)

theorem prune (records : Records ttl history registry) (now : Nanos) :
    Records ttl (history ++ [⟨now, .prune⟩]) (registry.prune now).2 := by
  refine records.untouched rfl rfl (records.sound.prune now) ?_
  intro service id
  rw [records.sound.get?_prune]
  simp only [Lease.holds, true_imp_iff]

theorem live (records : Records ttl history registry) (now : Nanos) (service : String) :
    Records ttl (history ++ [⟨now, .live service⟩]) registry := by
  refine records.untouched rfl rfl records.sound ?_
  intro other id
  cases (registry.leases other).get? id <;> rfl

theorem step (records : Records ttl history registry) {event : Event}
    (performed : registry.next? event = some next) : Records ttl (history ++ [event]) next := by
  obtain ⟨time, operation⟩ := event
  cases operation with
  | register service instance_ =>
    simp only [next?, perform?, Option.map_map] at performed
    obtain ⟨after, registered, rfl⟩ := Option.map_eq_some_iff.mp performed
    exact records.register registered
  | deregister service id =>
    cases performed
    exact records.deregister time service id
  | live service =>
    cases performed
    exact records.live time service
  | prune =>
    cases performed
    exact records.prune time

/-- **The table is an account of its history.** -/
theorem of_after? (ran : after? { ttl } history = some registry) : Records ttl history registry :=
  foldlM_induction (empty ttl) (fun _ records performed => records.step performed) ran

end Records

/-- Where leases do not run past the end of time, every operation has a result. -/
theorem exists_after? {ttl : Nanos} {history : List Event}
    (representable : ∀ event ∈ history, ∀ service instance_,
      event.operation = .register service instance_ → event.time + ttl < endOfTime) :
    ∃ registry, after? { ttl } history = some registry := by
  induction history using List.reverseRecOn with
  | nil => exact ⟨_, rfl⟩
  | append_singleton history event ih =>
    obtain ⟨registry, ran⟩ := ih fun event there => representable event (List.mem_append_left _ there)
    have span := (Records.of_after? ran).span
    have last := representable event (List.mem_append_right _ List.mem_cons_self)
    rw [after?, foldlM_append_event, ← after?, ran, Option.bind_some]
    obtain ⟨time, operation⟩ := event
    cases operation with
    | register service instance_ =>
      have fits : time + registry.ttl < endOfTime := span ▸ last service instance_ rfl
      have registered : registry.register? time service instance_ = some _ :=
        register?_eq_some.mpr ⟨fits, rfl⟩
      simp only [next?, perform?, registered]
      exact ⟨_, rfl⟩
    | deregister service id => exact ⟨_, rfl⟩
    | live service => exact ⟨_, rfl⟩
    | prune => exact ⟨_, rfl⟩

/-! ## What is listed -/

/-- What a service is to list: the instances whose standing registration is more recent than a lease's
span, in the order of the bytes of their ids. -/
structure Lists (ttl : Nanos) (history : List Event) (now : Nanos) (service : String)
    (instances : List Instance) : Prop where
  sorted : instances.Pairwise fun a b => Utf8.encode a.id < Utf8.encode b.id
  mem_iff {id address : String} : ⟨id, address⟩ ∈ instances ↔
    ∃ since, Stands history service id address since ∧ now < since + ttl

section

variable {ttl now : Nanos} {history : List Event} {registry : Registry} {service : String}

theorem mem_live {instance_ : Instance} :
    instance_ ∈ registry.live now service ↔
      ∃ lease, (instance_.id, lease) ∈ registry.leases service ∧ lease.holds now ∧
        lease.address = instance_.address := by
  rw [live, List.mem_mergeSort, List.mem_filterMap]
  constructor
  · rintro ⟨⟨id, lease⟩, there, chosen⟩
    dsimp only at chosen
    split at chosen
    · rename_i holds
      cases chosen
      exact ⟨lease, there, holds, rfl⟩
    · cases chosen
  · rintro ⟨lease, there, holds, address⟩
    refine ⟨_, there, ?_⟩
    dsimp only
    rw [if_pos holds, address]

/-- The ids of the instances that are listed are keys of the table. -/
theorem Sound.nodup_live (sound : registry.Sound) (now : Nanos) (service : String) :
    (registry.live now service).Pairwise fun a b => a.id ≠ b.id := by
  have distinct := List.pairwise_map.mp (sound.leases service)
  refine List.Pairwise.perm ?_ (List.mergeSort_perm ..).symm Ne.symm
  refine List.pairwise_filterMap.mpr (distinct.imp ?_)
  intro first second apart a chosen b chosen'
  obtain ⟨-, of_first⟩ := Option.ite_none_right_eq_some.mp chosen
  obtain ⟨-, of_second⟩ := Option.ite_none_right_eq_some.mp chosen'
  cases of_first
  cases of_second
  exact apart

theorem Sound.sorted_live (sound : registry.Sound) (now : Nanos) (service : String) :
    (registry.live now service).Pairwise fun a b => Utf8.encode a.id < Utf8.encode b.id := by
  -- the list is sorted by the order of texts, which is that of their bytes
  have ordered : (registry.live now service).Pairwise fun a b => decide (a.id ≤ b.id) = true := by
    refine List.pairwise_mergeSort ?_ ?_ _
    · intro a b c first second
      exact decide_eq_true (le_trans (of_decide_eq_true first) (of_decide_eq_true second))
    · intro a b
      rcases le_total a.id b.id with less | more
      · simp [less]
      · simp [more]
  refine (ordered.and (sound.nodup_live now service)).imp ?_
  rintro a b ⟨before, apart⟩
  exact Utf8.encode_lt_encode.mpr (lt_of_le_of_ne (of_decide_eq_true before) apart)

/-- A table that is an account of a history lists what the history says. -/
theorem Records.lists (records : Records ttl history registry)
    (past : ∀ event ∈ history, event.time ≤ now) :
    Lists ttl history now service (registry.live now service) where
  sorted := records.sound.sorted_live now service
  mem_iff {id address} := by
    rw [mem_live]
    constructor
    · rintro ⟨lease, there, holds, rfl⟩
      obtain ⟨since, expires, stands⟩ :=
        records.registered ((records.sound.leases service).get?_of_mem there)
      exact ⟨since, stands, expires ▸ of_decide_eq_true holds⟩
    · rintro ⟨since, stands, running⟩
      have there := Directory.mem_of_get? (records.held stands past running)
      exact ⟨_, there, decide_eq_true running, rfl⟩

/-- There is one order for the instances of a list. -/
theorem eq_of_sorted {instances others : List Instance}
    (sorted : instances.Pairwise fun a b => Utf8.encode a.id < Utf8.encode b.id)
    (also : others.Pairwise fun a b => Utf8.encode a.id < Utf8.encode b.id)
    (mem_iff : ∀ instance_, instance_ ∈ instances ↔ instance_ ∈ others) : instances = others := by
  have distinct {list : List Instance}
      (sorted : list.Pairwise fun a b => Utf8.encode a.id < Utf8.encode b.id) : list.Nodup := by
    refine sorted.imp ?_
    rintro a b before rfl
    exact absurd before (List.lt_irrefl _)
  have same : instances.Perm others :=
    (List.perm_ext_iff_of_nodup (distinct sorted) (distinct also)).mpr mem_iff
  refine same.eq_of_pairwise ?_ sorted also
  intro a b _ _ before after
  exact absurd before (List.lt_asymm after)

/-- What a service is to list is settled by the history. -/
theorem Lists.unique {instances others : List Instance} (lists : Lists ttl history now service instances)
    (also : Lists ttl history now service others) : instances = others := by
  refine eq_of_sorted lists.sorted also.sorted ?_
  rintro ⟨id, address⟩
  exact lists.mem_iff.trans also.mem_iff.symm

/-- Only what concerns a service has a part in what it is to list. -/
theorem lists_filter_concerns {instances : List Instance} :
    Lists ttl (history.filter fun event => event.operation.concerns service) now service instances ↔
      Lists ttl history now service instances := by
  constructor
  · rintro ⟨sorted, mem_iff⟩
    exact ⟨sorted, fun {_ _} => by rw [mem_iff]; simp only [stands_filter_concerns]⟩
  · rintro ⟨sorted, mem_iff⟩
    exact ⟨sorted, fun {_ _} => by rw [mem_iff]; simp only [stands_filter_concerns]⟩

end

/-- **The registry lists what its history says.** Every history has a result; listing a service after it
changes nothing and gives the instances of the service whose standing registration is more recent than a
lease's span, and it gives the same where nothing else ever happened than what concerns the service. -/
theorem live_of_history {ttl now : Nanos} {history : List Event}
    (representable : ∀ event ∈ history, ∀ service instance_,
      event.operation = .register service instance_ → event.time + ttl < endOfTime)
    (past : ∀ event ∈ history, event.time ≤ now) (service : String) :
    ∃ registry alone instances,
      after? { ttl } history = some registry ∧
      registry.perform? ⟨now, .live service⟩ = some (.listed instances, registry) ∧
      Lists ttl history now service instances ∧
      after? { ttl } (history.filter fun event => event.operation.concerns service) = some alone ∧
      alone.perform? ⟨now, .live service⟩ = some (.listed instances, alone) := by
  have part {event : Event}
      (there : event ∈ history.filter fun event => event.operation.concerns service) :
      event ∈ history := (List.mem_filter.mp there).1
  obtain ⟨registry, ran⟩ := exists_after? representable
  obtain ⟨alone, ranAlone⟩ := exists_after? fun event there => representable event (part there)
  have lists : Lists ttl history now service (registry.live now service) :=
    (Records.of_after? ran).lists past
  have listsAlone : Lists ttl history now service (alone.live now service) :=
    lists_filter_concerns.mp ((Records.of_after? ranAlone).lists fun event there => past event (part there))
  have same := lists.unique listsAlone
  refine ⟨registry, alone, registry.live now service, ran, rfl, lists, ranAlone, ?_⟩
  rw [same]
  rfl

/-- An instance moves while its lease runs, another is taken out, and a third is of another service. -/
def moving : List Event := [
  ⟨0, .register "judge" ⟨"first", "here"⟩⟩, ⟨1, .register "judge" ⟨"second", "next"⟩⟩,
  ⟨2, .register "other" ⟨"first", "elsewhere"⟩⟩, ⟨3, .deregister "judge" "second"⟩,
  ⟨8, .register "judge" ⟨"first", "there"⟩⟩, ⟨12, .prune⟩]

theorem live_of_history_moving :
    ∃ registry alone instances,
      after? { ttl := 10 } moving = some registry ∧
      registry.perform? ⟨15, .live "judge"⟩ = some (.listed instances, registry) ∧
      Lists 10 moving 15 "judge" instances ∧
      after? { ttl := 10 } (moving.filter fun event => event.operation.concerns "judge") = some alone ∧
      alone.perform? ⟨15, .live "judge"⟩ = some (.listed instances, alone) := by
  refine live_of_history ?_ (by decide) "judge"
  have early : ∀ event ∈ moving, event.time + 10 < endOfTime := by decide
  intro event there _ _ _
  exact early event there

example : (after? { ttl := 10 } moving).map (fun registry => registry.live 15 "judge") =
    some [⟨"first", "there"⟩] := by
  cbv

end CodeJudge.Registry
