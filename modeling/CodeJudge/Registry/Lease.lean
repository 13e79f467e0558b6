import CodeJudge.Clock
import CodeJudge.Registry.Instance

/-!
# Leases

The registry's table. A registration holds a lease for the registry's span; registering again renews
it. A lease that has run out is no longer listed, though it stays in the table until it is pruned,
deregistered or renewed.

The table maps a service to its leases by instance. Both levels are association lists in which every
key occurs once (`put` replaces the entry of a key where it stands).
-/

namespace CodeJudge

/-- Association lists in which every key occurs at most once. -/
abbrev Directory (α : Type) := List (String × α)

namespace Directory

/-- The value of a key. -/
def get? {α : Type} (directory : Directory α) (key : String) : Option α :=
  directory.lookup key

/-- Sets the value of a key. -/
def put {α : Type} (key : String) (value : α) : Directory α → Directory α
  | [] => [(key, value)]
  | entry :: rest => if entry.1 = key then (key, value) :: rest else entry :: put key value rest

/-- Takes a key away. -/
def erase {α : Type} (key : String) (directory : Directory α) : Directory α :=
  directory.filter fun entry => entry.1 ≠ key

end Directory

/-- A registration. -/
structure Lease where
  address : String
  /-- When it runs out. -/
  expires : Nanos
  deriving DecidableEq, Repr

/-- Whether a lease still holds. -/
def Lease.holds (lease : Lease) (now : Nanos) : Bool := now < lease.expires

/-- The table of leases. -/
structure Registry where
  /-- The span of a lease. -/
  ttl : Nanos
  services : Directory (Directory Lease) := []

namespace Registry

/-- The clock ends here: it counts seconds in a signed word of 64 bits. -/
def endOfTime : Nanos := Nanos.ofSeconds 9223372036854775808

/-- The leases of a service. -/
def leases (registry : Registry) (service : String) : Directory Lease :=
  (registry.services.get? service).getD []

/-- Registers an instance, or renews its lease. There is no result when the lease would run out
after the end of time. -/
def register? (registry : Registry) (now : Nanos) (service : String) (instance_ : Instance) :
    Option Registry :=
  let expires := now + registry.ttl
  if expires < endOfTime then
    some { registry with
      services := registry.services.put service
        ((registry.leases service).put instance_.id ⟨instance_.address, expires⟩) }
  else none

/-- Takes an instance out of the table, and tells whether it was there. -/
def deregister (registry : Registry) (service id : String) : Bool × Registry :=
  match registry.services.get? service with
  | none => (false, registry)
  | some leases =>
    ((leases.get? id).isSome,
      { registry with services := registry.services.put service (leases.erase id) })

/-- The instances of a service whose leases hold, in the order of their ids. -/
def live (registry : Registry) (now : Nanos) (service : String) : List Instance :=
  let instances := (registry.leases service).filterMap fun (id, lease) =>
    if lease.holds now then some ({ id, address := lease.address } : Instance) else none
  instances.mergeSort fun a b => decide (a.id ≤ b.id)

/-- The number of leases in the table, whether they hold or not. -/
def size (registry : Registry) : Nat :=
  (registry.services.flatMap fun entry => entry.2).length

/-- Takes out every lease that has run out, and every service that is left without one. Gives how
many leases were taken out. -/
def prune (registry : Registry) (now : Nanos) : Nat × Registry :=
  let kept := registry.services.map fun (service, leases) =>
    (service, leases.filter fun entry => entry.2.holds now)
  let pruned : Registry := { registry with services := kept.filter fun entry => !entry.2.isEmpty }
  (registry.size - pruned.size, pruned)

/-- Prunes at each of the given times, as the background pruner does until it is stopped. -/
def pruneAt (registry : Registry) (times : List Nanos) : Registry :=
  times.foldl (fun registry now => (registry.prune now).2) registry

end Registry

end CodeJudge
