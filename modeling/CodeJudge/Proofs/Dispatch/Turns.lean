import CodeJudge.Dispatch.Rotation
import Mathlib.Algebra.Order.BigOperators.Group.Finset
import Mathlib.Data.Finset.Max
import Mathlib.Order.Interval.Finset.Nat

/-!
# Turns

Numbers go round the instances: each number is the turn of one of them. For an instance at a given place
the numbers fall into rounds, each of which ends with the turn of that instance, so that a set of numbers
none of which is its turn has fewer of each round than there are instances (`card_round_le`).

**The law** (`exists_turns_between`): the more numbers such a set has, the more turns of the instance come
between its first and its last.
-/

namespace CodeJudge.Dispatch

/-- The place in a list of so many instances whose turn a number is. -/
def turnOf (count number : Nat) : Nat := slot (.ofNat number) count

/-- While the counter has not come round to its start, turns are remainders. -/
theorem turnOf_of_lt {number : Nat} (few : number < 2 ^ 64) (count : Nat) :
    turnOf count number = number % count := by
  rw [turnOf, slot, UInt64.toNat_ofNat_of_lt' few]

/-! ## Rounds -/

/-- The round that a number belongs to, when each round ends with the turn of the instance at `place`. -/
def roundOf (count place number : Nat) : Nat := (number + (count - 1 - place)) / count

/-- The number that ends a round. -/
def ending (count place round : Nat) : Nat := count * round + place

/-- Rounds follow one another. -/
theorem roundOf_mono (count place : Nat) : Monotone (roundOf count place) :=
  fun _ _ le => Nat.div_le_div_right (Nat.add_le_add_right le _)

variable {count place : Nat}

/-- A number comes no earlier than the first of its round. -/
theorem first_le (number : Nat) :
    count * roundOf count place number ≤ number + (count - 1 - place) :=
  Nat.mul_div_le _ _

variable (there : place < count)

include there

/-- A round ends with the turn of the instance. -/
theorem ending_mod (round : Nat) : ending count place round % count = place := by
  rw [ending, Nat.mul_add_mod, Nat.mod_eq_of_lt there]

/-- No two rounds end with one number. -/
theorem ending_injective : Function.Injective (ending count place) := by
  intro round other same
  exact Nat.eq_of_mul_eq_mul_left (Nat.zero_lt_of_lt there) (Nat.add_right_cancel same)

/-- A number comes no later than the end of its round. -/
theorem le_ending (number : Nat) : number ≤ ending count place (roundOf count place number) := by
  have below := Nat.lt_mul_div_succ (number + (count - 1 - place)) (Nat.zero_lt_of_lt there)
  rw [Nat.mul_succ] at below
  unfold ending roundOf
  omega

/-- A number comes after the ends of all rounds before its own. -/
theorem ending_lt {number round : Nat} (earlier : round < roundOf count place number) :
    ending count place round < number := by
  have above := (Nat.mul_le_mul_left count earlier).trans (first_le number)
  rw [Nat.mul_succ] at above
  unfold ending
  omega

/-- A number that is not the turn of the instance comes before the ends of its round and all later ones. -/
theorem lt_ending {number round : Nat} (late : roundOf count place number ≤ round)
    (other : number % count ≠ place) : number < ending count place round := by
  have upto : number ≤ ending count place round :=
    (le_ending there number).trans (Nat.add_le_add_right (Nat.mul_le_mul_left count late) place)
  refine upto.lt_of_ne ?_
  rintro rfl
  exact other (ending_mod there round)

/-! ## Missed turns -/

variable {set : Finset Nat} (missed : ∀ number ∈ set, number % count ≠ place)

include missed

/-- Of a round, a set without the turn that ends it has fewer numbers than there are instances. -/
theorem card_round_le (round : Nat) :
    (set.filter fun number => roundOf count place number = round).card ≤ count - 1 := by
  have within : Set.MapsTo (· + (count - 1 - place))
      (set.filter fun number => roundOf count place number = round : Finset Nat)
      (Finset.Ico (count * round) (count * round + (count - 1)) : Finset Nat) := by
    intro number in_
    obtain ⟨mem, rfl⟩ := Finset.mem_filter.mp (Finset.mem_coe.mp in_)
    have early := @first_le count place number
    have late := le_ending there number
    have other : number ≠ ending count place (roundOf count place number) := by
      intro same
      refine missed number mem ?_
      rw [same, ending_mod there]
    unfold ending at late other
    refine Finset.mem_coe.mpr (Finset.mem_Ico.mpr ⟨early, ?_⟩)
    show number + (count - 1 - place) < _
    omega
  have size := Finset.card_le_card_of_injOn _ within (add_left_injective _).injOn
  rwa [Nat.card_Ico, Nat.add_sub_cancel_left] at size

/-- **Missed turns**: from one number to another, a set that misses every turn of an instance has at most
one number less than there are instances for each round. -/
theorem card_le_of_missed {first last : Nat}
    (within : ∀ number ∈ set, first ≤ number ∧ number ≤ last) :
    set.card ≤ (count - 1) * (roundOf count place last + 1 - roundOf count place first) := by
  have into : ∀ number ∈ set, roundOf count place number ∈
      Finset.Icc (roundOf count place first) (roundOf count place last) := by
    intro number mem
    obtain ⟨after, before⟩ := within number mem
    exact Finset.mem_Icc.mpr ⟨roundOf_mono count place after, roundOf_mono count place before⟩
  rw [← Nat.card_Icc]
  exact Finset.card_le_mul_card_image_of_maps_to into _
    fun round _ => card_round_le there missed round

/-- **The turns between**: between the numbers of a set that misses every turn of an instance, so many of its
turns come that the numbers are no more than the other instances, counted once and once more for each. -/
theorem exists_turns_between (some_ : set.Nonempty) :
    ∃ first ∈ set, ∃ last ∈ set, ∃ turns : Finset Nat,
      set.card ≤ (count - 1) * (turns.card + 1) ∧
      ∀ turn ∈ turns, first < turn ∧ turn < last ∧ turn % count = place := by
  obtain ⟨first, firstMem, least⟩ : ∃ first ∈ set, ∀ number ∈ set, first ≤ number :=
    Finset.exists_min_image _ id some_
  obtain ⟨last, lastMem, greatest⟩ : ∃ last ∈ set, ∀ number ∈ set, number ≤ last :=
    Finset.exists_max_image _ id some_
  have forth := roundOf_mono count place (least last lastMem)
  have size := card_le_of_missed there missed fun number mem => ⟨least number mem, greatest number mem⟩
  refine ⟨first, firstMem, last, lastMem,
    (Finset.Ico (roundOf count place first) (roundOf count place last)).image (ending count place), ?_, ?_⟩
  · rwa [Finset.card_image_of_injective _ (ending_injective there), Nat.card_Ico,
      ← Nat.sub_add_comm forth]
  · intro turn its
    obtain ⟨round, mem, rfl⟩ := Finset.mem_image.mp its
    obtain ⟨after, before⟩ := Finset.mem_Ico.mp mem
    exact ⟨lt_ending there after (missed first firstMem), ending_lt there before, ending_mod there round⟩

end CodeJudge.Dispatch
