import CodeJudge.Store.Fault

/-!
# Announcing an instance

A worker keeps itself in the registry: at once when it starts and at every beat of its heart it
registers, and when it is told to stop it deregisters. A registration that fails is made again at the
next beat. An instance that has never seen a registration succeed has nothing to take back.
-/

namespace CodeJudge.Registry

/-- What an announcer needs done. -/
structure Membership (W : Type) where
  register : StateM W (Except Fault Unit)
  deregister : StateM W (Except Fault Unit)

/-- One beat: whether a registration has succeeded by now, given whether one had before. -/
def Membership.beat {W : Type} (membership : Membership W) (registered : Bool) : StateM W Bool := do
  match ← membership.register with
  | .ok () => return true
  | .error _ => return registered

/-- Leaving: what was registered is taken back. -/
def Membership.leave {W : Type} (membership : Membership W) (registered : Bool) :
    StateM W (Except Fault Unit) :=
  if registered then membership.deregister else return .ok ()

/-- So many beats one after another. -/
def Membership.beats {W : Type} (membership : Membership W) (registered : Bool) :
    Nat → StateM W Bool
  | 0 => return registered
  | count + 1 => do
    let registered ← membership.beat registered
    membership.beats registered count

/-- Announces an instance for so many beats, and then leaves. -/
def Membership.announce {W : Type} (membership : Membership W) (count : Nat) :
    StateM W (Except Fault Unit) := do
  let registered ← membership.beats false count
  membership.leave registered

end CodeJudge.Registry
