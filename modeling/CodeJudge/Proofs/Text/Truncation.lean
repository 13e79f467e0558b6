import CodeJudge.Proofs.Text.Cut
import CodeJudge.Proofs.Text.Utf8
import Mathlib.Data.List.Infix
import Mathlib.Order.Bounds.Defs

/-!
# A cut in the bytes of a text

Where a text may be cut is told here of its bytes: at its end, and where a byte stands that a character
begins with (`Boundary`). These are the places at which a whole number of characters ends
(`isBoundary_iff`), so that walking back among the characters is a search among the bytes (`Search`), which
ends at the first byte at the latest.

**The law** (`truncation_optimal`): what is left of a text that is cut is the longest beginning of it that
ends at a boundary and fits into the limit. The search for the boundary goes back three steps at most: of the
bytes of a character there are three at most that it does not begin with.

**What it does not establish.** Anything of bytes that are not text, among which no boundary has to be near.
-/

namespace CodeJudge

/-! ## Boundaries among bytes -/

namespace Utf8

theorem length_encode (text : List Char) : (text.flatMap String.utf8EncodeChar).length = Cut.size text := by
  induction text with
  | nil => rfl
  | cons c rest ih =>
    rw [List.flatMap_cons, List.length_append, String.length_utf8EncodeChar, ih, Cut.size_cons]

end Utf8

namespace Cut

open Utf8 (encode length_encode)

/-- A place at which bytes may be cut: their end, or one with the first byte of a character. -/
def Boundary (bytes : Bytes) (position : Nat) : Prop :=
  position = bytes.length ∨ ∃ byte ∈ bytes[position]?, byte.IsUTF8FirstByte

theorem Boundary.le_length {bytes : Bytes} {position : Nat} (boundary : Boundary bytes position) :
    position ≤ bytes.length := by
  rcases boundary with rfl | ⟨byte, there, -⟩
  · exact Nat.le_refl _
  · obtain ⟨within, -⟩ := List.getElem?_eq_some_iff.mp there
    exact Nat.le_of_lt within

section

variable {c : Char} {rest : Bytes} {position : Nat}

/-- A character begins with a first byte, and has no other. -/
theorem boundary_encodeChar (within : position < c.utf8Size) :
    Boundary (String.utf8EncodeChar c ++ rest) position ↔ position = 0 := by
  have place : position < (String.utf8EncodeChar c).length := by rwa [String.length_utf8EncodeChar]
  have short : position ≠ (String.utf8EncodeChar c ++ rest).length := by
    rw [List.length_append]
    omega
  rw [Boundary, List.getElem?_append_left place, List.getElem?_eq_getElem place]
  simp only [short, false_or, Option.mem_some, exists_eq_left', UInt8.isUTF8FirstByte_getElem_utf8EncodeChar]

/-- Past a character, the boundaries are those of what follows it. -/
theorem boundary_append (past : c.utf8Size ≤ position) :
    Boundary (String.utf8EncodeChar c ++ rest) position ↔ Boundary rest (position - c.utf8Size) := by
  rw [← String.length_utf8EncodeChar] at past ⊢
  have shifted : position = (String.utf8EncodeChar c ++ rest).length ↔
      position - (String.utf8EncodeChar c).length = rest.length := by
    rw [List.length_append]
    omega
  rw [Boundary, Boundary, List.getElem?_append_right past, shifted]

end

/-- **A whole number of characters ends at the boundaries among the bytes**, and nowhere else. -/
theorem isBoundary_iff (text : List Char) (position : Nat) :
    isBoundary text position = true ↔ Boundary (text.flatMap String.utf8EncodeChar) position := by
  fun_induction isBoundary text position with
  | case1 text =>
    cases text with
    | nil => exact iff_of_true rfl (.inl rfl)
    | cons c rest =>
      rw [List.flatMap_cons, boundary_encodeChar c.utf8Size_pos]
      exact iff_of_true rfl rfl
  | case2 position =>
    refine iff_of_false Bool.false_ne_true fun boundary => ?_
    exact absurd boundary.le_length (Nat.not_succ_le_zero position)
  | case3 c rest position ih =>
    rw [List.flatMap_cons, Bool.and_eq_true, decide_eq_true_eq, ih]
    by_cases past : c.utf8Size ≤ position + 1
    · rw [boundary_append past, and_iff_right past]
    · rw [boundary_encodeChar (Nat.lt_of_not_le past)]
      exact iff_of_false (fun both => past both.1) (Nat.succ_ne_zero position)

/-! ## The search for a boundary -/

/-- A search for a boundary, from a position back to where it stops, in so many steps. A step leads from a
position that is no boundary to the one before it; from the first position there is none. -/
inductive Search (bytes : Bytes) : (position steps found : Nat) → Prop
  | stop {position : Nat} (boundary : Boundary bytes position) : Search bytes position 0 position
  | back {position steps found : Nat} (inside : ¬ Boundary bytes (position + 1))
      (onwards : Search bytes position steps found) : Search bytes (position + 1) (steps + 1) found

theorem Search.position_eq {bytes : Bytes} {position steps found : Nat}
    (search : Search bytes position steps found) : position = found + steps := by
  induction search with
  | stop boundary => rfl
  | back inside onwards ih => rw [ih, Nat.add_assoc]

/-- Walking back among the characters is a search among the bytes: it ends, at the first position at the
latest. -/
theorem search_boundaryBefore (text : List Char) (position : Nat) :
    ∃ steps, Search (text.flatMap String.utf8EncodeChar) position steps (boundaryBefore text position) := by
  fun_induction boundaryBefore text position with
  | case1 => exact ⟨0, .stop ((isBoundary_iff text 0).mp (isBoundary_boundaryBefore text 0))⟩
  | case2 position whole => exact ⟨0, .stop ((isBoundary_iff text _).mp whole)⟩
  | case3 position broken ih =>
    obtain ⟨steps, onwards⟩ := ih
    exact ⟨steps + 1, .back (fun boundary => broken ((isBoundary_iff text _).mpr boundary)) onwards⟩

/-- A boundary is near every position of a text, as no character has more than four bytes. -/
theorem le_boundaryBefore_add_three {text : List Char} {position : Nat} (within : position ≤ size text) :
    position ≤ boundaryBefore text position + 3 := by
  obtain ⟨rest, split, late⟩ := exists_takeBytes_append text position
  rw [boundaryBefore_eq]
  cases rest with
  | nil =>
    rw [List.append_nil] at split
    rw [← split]
    omega
  | cons c later =>
    -- the position lies inside the first character that is left out
    have large := late c later rfl
    have four := c.utf8Size_le_four
    omega

/-- In a text, the search takes three steps at most. -/
theorem exists_search {text : String} {position : Nat} (within : position ≤ (encode text).length) :
    ∃ steps ≤ 3, Search (encode text) position steps (boundaryBefore text.toList position) := by
  obtain ⟨steps, search⟩ := search_boundaryBefore text.toList position
  rw [encode, length_encode] at within
  have near := le_boundaryBefore_add_three within
  have eq := search.position_eq
  exact ⟨steps, by omega, search⟩

/-! ## What is left -/

theorem length_truncate (text : String) :
    (encode (truncate text)).length = boundaryBefore text.toList limit := by
  rw [encode, length_encode, size_truncate]

/-- The boundary that is found is the last of those up to where the search begins. -/
theorem isGreatest_boundaryBefore (text : String) (position : Nat) :
    IsGreatest {boundary | Boundary (encode text) boundary ∧ boundary ≤ position}
      (boundaryBefore text.toList position) := by
  constructor
  · exact ⟨(isBoundary_iff _ _).mp (isBoundary_boundaryBefore _ _), boundaryBefore_le _ _⟩
  · rintro other ⟨boundary, fits⟩
    exact le_boundaryBefore fits ((isBoundary_iff _ _).mpr boundary)

theorem truncate_of_length_le {text : String} (fits : (encode text).length ≤ limit) : truncate text = text := by
  rw [encode, length_encode] at fits
  exact if_pos fits

/-- **The best cut of a text.** -/
structure BestCut (text part : String) : Prop where
  /-- What is left is a beginning of the text, byte by byte, -/
  begins : encode part <+: encode text
  /-- and no longer one ends at a boundary and fits into the limit. -/
  longest : IsGreatest {position | Boundary (encode text) position ∧ position ≤ limit} (encode part).length
  /-- A text that fits is left as it is. -/
  whole : (encode text).length ≤ limit → part = text
  /-- One that does not fit takes up the limit but for three bytes at most. -/
  filled : limit < (encode text).length → limit - 3 ≤ (encode part).length ∧ (encode part).length ≤ limit
  /-- It is cut where a search from the limit back stops, which is within three steps. -/
  found : limit < (encode text).length →
    (encode part).length = boundaryBefore text.toList limit ∧
      ∃ steps ≤ 3, Search (encode text) limit steps (boundaryBefore text.toList limit)
  /-- What is left is not cut again. -/
  again : truncate part = part

/-- **A cut leaves as much of a text as can be left.** It leaves the longest beginning that ends at a boundary
and fits into the limit, which is the whole of a text that fits, and at least `limit - 3` bytes of another. The
search for the boundary goes back three steps at most, never below the first position, and a second cut takes
nothing more away. -/
theorem truncation_optimal (text : String) : BestCut text (truncate text) where
  begins := List.IsPrefix.flatMap (longest_truncate text).begins String.utf8EncodeChar
  longest := by
    rw [length_truncate]
    exact isGreatest_boundaryBefore text limit
  whole := truncate_of_length_le
  filled long := by
    rw [length_truncate]
    rw [encode, length_encode] at long
    have near := le_boundaryBefore_add_three (Nat.le_of_lt long)
    have bound := boundaryBefore_le text.toList limit
    omega
  found long := ⟨length_truncate text, exists_search (Nat.le_of_lt long)⟩
  again := by
    refine truncate_of_length_le ?_
    rw [length_truncate]
    exact boundaryBefore_le text.toList limit

/-- A text in which the limit falls after three of the four bytes of a character. -/
def straddling : String := String.ofList (List.replicate 1364 '€' ++ ['a'] ++ ['😀'])

theorem toList_straddling : straddling.toList = List.replicate 1364 '€' ++ ['a'] ++ ['😀'] :=
  String.toList_ofList

theorem length_straddling : (encode straddling).length = 4097 := by
  rw [encode, length_encode, toList_straddling, size_append, size_append, size_replicate]
  rfl

theorem length_truncate_straddling : (encode (truncate straddling)).length = 4093 := by
  have kept : size (List.replicate 1364 '€' ++ ['a']) = 4093 := by
    rw [size_append, size_replicate]
    rfl
  have cut : takeBytes ['😀'] (limit - 4093) = [] := takeBytes_of_lt (by decide) []
  rw [length_truncate, boundaryBefore_eq, toList_straddling, takeBytes_append, kept, if_pos (by decide), cut,
    List.append_nil, kept]

/-- No fewer steps are enough: here the search takes three. -/
theorem truncation_optimal_straddling :
    limit < (encode straddling).length ∧ (encode (truncate straddling)).length = limit - 3 ∧
      Search (encode straddling) limit 3 (limit - 3) := by
  have long : limit < (encode straddling).length := by
    rw [length_straddling]
    decide
  obtain ⟨length, steps, few, search⟩ := (truncation_optimal straddling).found long
  rw [← length, length_truncate_straddling] at search
  obtain rfl : steps = 3 := Nat.add_left_cancel search.position_eq.symm
  exact ⟨long, length_truncate_straddling, search⟩

end Cut

end CodeJudge
