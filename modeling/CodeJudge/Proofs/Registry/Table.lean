import CodeJudge.Registry.Lease
import Mathlib.Data.List.Basic

/-!
# The table of leases

What each operation of the registry does to the leases of one service: a registration puts one lease, a
deregistration erases one, pruning keeps those that hold, and each leaves the leases of other services
alone as far as they hold. The keys of both levels stay distinct (`Registry.Sound`), so that a key is in a
directory exactly with the value that it is looked up with.
-/

namespace CodeJudge

namespace Directory

variable {α β : Type} {directory : Directory α}

/-- Every key stands in the directory once. -/
def Distinct (directory : Directory α) : Prop := (directory.map Prod.fst).Nodup

theorem get?_nil (key : String) : get? ([] : Directory α) key = none := rfl

theorem get?_cons (entry : String × α) (rest : Directory α) (key : String) :
    get? (entry :: rest) key = if key = entry.1 then some entry.2 else get? rest key := by
  unfold get?
  by_cases same : key = entry.1
  · rw [if_pos same, List.lookup_cons, beq_iff_eq.mpr same]
  · rw [if_neg same, List.lookup_cons, beq_eq_false_iff_ne.mpr same]

theorem mem_of_get? {key : String} {value : α} (found : directory.get? key = some value) :
    (key, value) ∈ directory := by
  induction directory with
  | nil => cases found
  | cons entry rest ih =>
    rw [get?_cons] at found
    split at found
    · rename_i same
      cases found
      subst same
      exact List.mem_cons_self
    · exact List.mem_cons_of_mem _ (ih found)

theorem Distinct.get?_of_mem (distinct : directory.Distinct) {key : String} {value : α}
    (there : (key, value) ∈ directory) : directory.get? key = some value := by
  induction directory with
  | nil => cases there
  | cons entry rest ih =>
    rw [Distinct, List.map_cons, List.nodup_cons] at distinct
    rw [get?_cons]
    rcases List.mem_cons.mp there with rfl | later
    · rw [if_pos rfl]
    · have other : key ≠ entry.1 := by
        intro same
        exact distinct.1 (List.mem_map.mpr ⟨_, later, same⟩)
      rw [if_neg other]
      exact ih distinct.2 later

/-- Where keys are distinct, what a key is looked up with is what stands beside it. -/
theorem Distinct.get?_eq_some (distinct : directory.Distinct) {key : String} {value : α} :
    directory.get? key = some value ↔ (key, value) ∈ directory :=
  ⟨mem_of_get?, distinct.get?_of_mem⟩

/-! ## Putting -/

theorem get?_put (directory : Directory α) (key other : String) (value : α) :
    (directory.put key value).get? other = if other = key then some value else directory.get? other := by
  induction directory with
  | nil => rw [put, get?_cons, get?_nil]
  | cons entry rest ih =>
    unfold put
    by_cases same : entry.1 = key
    · rw [if_pos same, get?_cons, get?_cons, same]
      split <;> rfl
    · rw [if_neg same, get?_cons, get?_cons, ih]
      by_cases here : other = entry.1
      · rw [if_pos here, if_pos here, if_neg (here ▸ same)]
      · rw [if_neg here, if_neg here]

theorem mem_keys_put {key other : String} {value : α} :
    other ∈ (directory.put key value).map Prod.fst ↔ other = key ∨ other ∈ directory.map Prod.fst := by
  induction directory with
  | nil => simp [put]
  | cons entry rest ih =>
    unfold put
    by_cases same : entry.1 = key
    · simp [same]
    · rw [if_neg same, List.map_cons, List.mem_cons, ih, List.map_cons, List.mem_cons]
      exact or_left_comm

theorem Distinct.put (distinct : directory.Distinct) (key : String) (value : α) :
    (directory.put key value).Distinct := by
  induction directory with
  | nil => exact List.pairwise_singleton _ key
  | cons entry rest ih =>
    rw [Distinct, List.map_cons, List.nodup_cons] at distinct
    unfold Directory.put
    by_cases same : entry.1 = key
    · rw [if_pos same, Distinct, List.map_cons, List.nodup_cons]
      exact ⟨same ▸ distinct.1, distinct.2⟩
    · rw [if_neg same, Distinct, List.map_cons, List.nodup_cons, mem_keys_put]
      refine ⟨?_, ih distinct.2⟩
      rintro (here | here)
      · exact same here
      · exact distinct.1 here

/-! ## Keeping some of the entries -/

theorem Distinct.filter (distinct : directory.Distinct) (keeps : String × α → Bool) :
    Distinct (List.filter keeps directory) :=
  distinct.sublist (List.filter_sublist.map Prod.fst)

/-- Of the entries that are kept, a key is looked up with what it was, if that is kept. -/
theorem Distinct.get?_filter (distinct : directory.Distinct) (keeps : String × α → Bool) (key : String) :
    get? (List.filter keeps directory) key =
      (directory.get? key).filter fun value => keeps (key, value) := by
  ext value
  rw [(distinct.filter keeps).get?_eq_some, List.mem_filter, Option.filter_eq_some_iff,
    distinct.get?_eq_some]

theorem Distinct.erase (distinct : directory.Distinct) (key : String) : (directory.erase key).Distinct :=
  distinct.filter _

theorem Distinct.get?_erase (distinct : directory.Distinct) (key other : String) :
    (directory.erase key).get? other = if other = key then none else directory.get? other := by
  rw [Directory.erase, distinct.get?_filter]
  by_cases same : other = key
  · rw [if_pos same, Option.filter_eq_none_iff]
    intro _ _
    simp [same]
  · rw [if_neg same]
    cases directory.get? other with
    | none => rfl
    | some value => exact Option.filter_some_pos (decide_eq_true same)

/-! ## Changing the values -/

/-- Every value is changed, under its key. -/
def mapValues (change : α → β) (directory : Directory α) : Directory β :=
  directory.map fun entry => (entry.1, change entry.2)

theorem keys_mapValues (change : α → β) (directory : Directory α) :
    (directory.mapValues change).map Prod.fst = directory.map Prod.fst := by
  rw [mapValues, List.map_map]
  rfl

theorem Distinct.mapValues (distinct : directory.Distinct) (change : α → β) :
    (directory.mapValues change).Distinct := by
  rw [Distinct, keys_mapValues]
  exact distinct

theorem get?_mapValues (change : α → β) (directory : Directory α) (key : String) :
    (directory.mapValues change).get? key = (directory.get? key).map change := by
  induction directory with
  | nil => rfl
  | cons entry rest ih =>
    rw [Directory.mapValues, List.map_cons, get?_cons, get?_cons]
    split
    · rfl
    · exact ih

end Directory

namespace Registry

variable {registry next : Registry} {now : Nanos} {service id : String}

/-- The keys of both levels of the table are distinct. -/
structure Sound (registry : Registry) : Prop where
  services : registry.services.Distinct
  leases : ∀ service, (registry.leases service).Distinct

theorem leases_empty (ttl : Nanos) (service : String) : leases { ttl } service = [] := rfl

theorem sound_empty (ttl : Nanos) : Sound { ttl } := ⟨List.nodup_nil, fun _ => List.nodup_nil⟩

theorem leases_put (registry : Registry) (service other : String) (leases : Directory Lease) :
    Registry.leases { registry with services := registry.services.put service leases } other =
      if other = service then leases else registry.leases other := by
  unfold Registry.leases
  rw [Directory.get?_put]
  split <;> rfl

theorem Sound.put (sound : registry.Sound) {leases : Directory Lease} (distinct : leases.Distinct)
    (service : String) :
    Sound { registry with services := registry.services.put service leases } where
  services := sound.services.put service leases
  leases other := by
    rw [leases_put]
    split
    · exact distinct
    · exact sound.leases other

/-! ## Registering -/

/-- What a registration comes to: the lease runs from now for the registry's span, unless that is past
the end of time. -/
theorem register?_eq_some {instance_ : Instance} :
    registry.register? now service instance_ = some next ↔
      now + registry.ttl < endOfTime ∧
      { registry with
        services := registry.services.put service
          ((registry.leases service).put instance_.id ⟨instance_.address, now + registry.ttl⟩) } = next := by
  rw [register?]
  by_cases representable : now + registry.ttl < endOfTime
  · simp only [representable, ↓reduceIte, Option.some.injEq, true_and]
  · simp only [representable, ↓reduceIte, reduceCtorEq, false_and]

theorem ttl_of_register? {instance_ : Instance}
    (registered : registry.register? now service instance_ = some next) : next.ttl = registry.ttl := by
  obtain ⟨-, rfl⟩ := register?_eq_some.mp registered
  rfl

theorem Sound.register? (sound : registry.Sound) {instance_ : Instance}
    (registered : registry.register? now service instance_ = some next) : next.Sound := by
  obtain ⟨-, rfl⟩ := register?_eq_some.mp registered
  exact sound.put ((sound.leases service).put instance_.id _) service

/-- The lease that is looked up is new for the instance that is registered, and for every other what it
was. -/
theorem get?_of_register? {instance_ : Instance}
    (registered : registry.register? now service instance_ = some next) (other id : String) :
    (next.leases other).get? id =
      if (service, instance_.id) = (other, id) then some ⟨instance_.address, now + registry.ttl⟩
      else (registry.leases other).get? id := by
  obtain ⟨-, rfl⟩ := register?_eq_some.mp registered
  rw [leases_put]
  by_cases same : other = service
  · subst same
    rw [if_pos rfl, Directory.get?_put]
    simp only [Prod.mk.injEq, true_and, eq_comm]
  · rw [if_neg same, if_neg (fun aim => same (Prod.ext_iff.mp aim).1.symm)]

/-! ## Deregistering -/

/-- An instance was there to be taken out when it had a lease, whether that held or not. -/
theorem deregister_fst (registry : Registry) (service id : String) :
    (registry.deregister service id).1 = ((registry.leases service).get? id).isSome := by
  unfold deregister leases
  split
  · rename_i absent
    rw [absent, Option.getD_none, Directory.get?_nil]
    rfl
  · rename_i found there
    rw [there, Option.getD_some]

/-- A service without leases has none to take out. -/
theorem leases_deregister (registry : Registry) (service id other : String) :
    (registry.deregister service id).2.leases other =
      if other = service then (registry.leases service).erase id else registry.leases other := by
  unfold deregister
  split
  · rename_i absent
    have none : registry.leases service = [] := by rw [leases, absent, Option.getD_none]
    split
    · rename_i same
      rw [same, none]
      rfl
    · rfl
  · rename_i found there
    have same : registry.leases service = found := by rw [leases, there, Option.getD_some]
    rw [leases_put, same]

theorem Sound.deregister (sound : registry.Sound) (service id : String) :
    (registry.deregister service id).2.Sound := by
  unfold Registry.deregister
  split
  · exact sound
  · rename_i found there
    have same : registry.leases service = found := by rw [Registry.leases, there, Option.getD_some]
    exact sound.put (same ▸ (sound.leases service).erase id) service

/-- No lease is looked up for the instance that is taken out, and for every other what it was. -/
theorem Sound.get?_deregister (sound : registry.Sound) (service id other key : String) :
    ((registry.deregister service id).2.leases other).get? key =
      if (service, id) = (other, key) then none else (registry.leases other).get? key := by
  rw [leases_deregister]
  by_cases same : other = service
  · subst same
    rw [if_pos rfl, (sound.leases other).get?_erase]
    simp only [Prod.mk.injEq, true_and, eq_comm]
  · rw [if_neg same, if_neg (fun aim => same (Prod.ext_iff.mp aim).1.symm)]

theorem ttl_deregister (registry : Registry) (service id : String) :
    (registry.deregister service id).2.ttl = registry.ttl := by
  unfold deregister
  split <;> rfl

/-! ## Pruning -/

theorem prune_services (registry : Registry) (now : Nanos) :
    (registry.prune now).2.services =
      (registry.services.mapValues fun leases => leases.filter fun entry => entry.2.holds now).filter
        fun entry => !entry.2.isEmpty := rfl

/-- A service that is left without a lease has none, as it has when it is taken out. -/
theorem Sound.leases_prune (sound : registry.Sound) (now : Nanos) (service : String) :
    (registry.prune now).2.leases service =
      (registry.leases service).filter fun entry => entry.2.holds now := by
  rw [Registry.leases, prune_services, (sound.services.mapValues _).get?_filter,
    Directory.get?_mapValues, Registry.leases]
  cases registry.services.get? service with
  | none => rfl
  | some found =>
    rw [Option.map_some, Option.getD_some]
    -- an empty directory is taken out, and what is not there is read as empty
    generalize found.filter _ = kept
    cases kept <;> rfl

/-- A lease that holds is looked up as before. -/
theorem Sound.get?_prune (sound : registry.Sound) (now : Nanos) (service id : String) :
    ((registry.prune now).2.leases service).get? id =
      ((registry.leases service).get? id).filter fun lease => lease.holds now := by
  rw [sound.leases_prune, (sound.leases service).get?_filter]

theorem Sound.prune (sound : registry.Sound) (now : Nanos) : (registry.prune now).2.Sound where
  services := by
    rw [prune_services]
    exact (sound.services.mapValues _).filter _
  leases service := by
    rw [sound.leases_prune]
    exact (sound.leases service).filter _

end Registry

end CodeJudge
