import CodeJudge.Text.Cut

/-!
# What is left of a cut text

Of a text that is cut, the characters are left that fit into the limit (`truncate_eq`), as the walk back from
the limit ends where they end (`boundaryBefore_eq`): the longest beginning of the text that fits
(`longest_truncate`). A cut never takes the whole of a text: a character has at most four bytes, far fewer
than the limit.

Fitting is told of characters from the front (`takeBytes_append`), so that a text may be cut apart wherever
one of its parts ends.
-/

namespace CodeJudge.Cut

/-- The walk back from a position stops at the first boundary that it meets: no boundary at or below
the position lies past where it stops. -/
theorem le_boundaryBefore {text : List Char} {boundary position : Nat} (fits : boundary ≤ position)
    (whole : isBoundary text boundary = true) : boundary ≤ boundaryBefore text position := by
  induction position with
  | zero => exact fits
  | succ position ih =>
    unfold boundaryBefore
    split
    · exact fits
    · rename_i broken
      have other : boundary ≠ position + 1 := fun eq => broken (eq ▸ whole)
      exact ih (by omega)

/-! ## What fits -/

theorem size_cons (c : Char) (rest : List Char) : size (c :: rest) = c.utf8Size + size rest := by
  have start (text : List Char) (sum : Nat) :
      text.foldl (fun sum c => sum + c.utf8Size) sum = sum + size text := by
    induction text generalizing sum with
    | nil => rfl
    | cons c rest ih =>
      rw [size, List.foldl_cons, List.foldl_cons, ih, ih (0 + c.utf8Size)]
      omega
  rw [size, List.foldl_cons, start, Nat.zero_add]

theorem size_append (text other : List Char) : size (text ++ other) = size text + size other := by
  induction text with
  | nil => exact (Nat.zero_add _).symm
  | cons c rest ih => rw [List.cons_append, size_cons, size_cons, ih, Nat.add_assoc]

theorem size_replicate (count : Nat) (c : Char) : size (List.replicate count c) = count * c.utf8Size := by
  induction count with
  | zero => exact (Nat.zero_mul _).symm
  | succ count ih => rw [List.replicate_succ, size_cons, ih, Nat.succ_mul, Nat.add_comm]

theorem size_takeBytes_le (text : List Char) (count : Nat) : size (takeBytes text count) ≤ count := by
  fun_induction takeBytes text count with
  | case1 => exact Nat.zero_le _
  | case2 c rest count fits ih =>
    rw [size_cons]
    omega
  | case3 => exact Nat.zero_le _

/-- A whole text fits, and what follows it has the rest of the place; or only a part of it fits. -/
theorem takeBytes_append (text other : List Char) (count : Nat) :
    takeBytes (text ++ other) count =
      if size text ≤ count then text ++ takeBytes other (count - size text) else takeBytes text count := by
  induction text generalizing count with
  | nil => rfl
  | cons c rest ih =>
    rw [List.cons_append, takeBytes, takeBytes, size_cons]
    by_cases fits : c.utf8Size ≤ count
    · rw [if_pos fits, if_pos fits, ih]
      by_cases whole : size rest ≤ count - c.utf8Size
      · rw [if_pos whole, if_pos (by omega), List.cons_append, Nat.sub_sub]
      · rw [if_neg whole, if_neg (by omega)]
    · rw [if_neg fits, if_neg fits, if_neg (by omega)]

theorem takeBytes_of_size_le {text : List Char} {count : Nat} (fits : size text ≤ count) :
    takeBytes text count = text := by
  have whole := takeBytes_append text [] count
  rwa [if_pos fits, takeBytes, List.append_nil] at whole

/-- Nothing fits where the first character does not. -/
theorem takeBytes_of_lt {c : Char} {count : Nat} (large : count < c.utf8Size) (rest : List Char) :
    takeBytes (c :: rest) count = [] := if_neg (Nat.not_le.mpr large)

/-- What is left out of a text begins with a character that has no place. -/
theorem exists_takeBytes_append (text : List Char) (count : Nat) :
    ∃ rest, text = takeBytes text count ++ rest ∧
      ∀ c later, rest = c :: later → count < size (takeBytes text count) + c.utf8Size := by
  fun_induction takeBytes text count with
  | case1 => exact ⟨[], rfl, nofun⟩
  | case2 c rest count fits ih =>
    obtain ⟨left, split, late⟩ := ih
    refine ⟨left, congrArg (c :: ·) split, fun next later eq => ?_⟩
    have bound := late next later eq
    rw [size_cons]
    omega
  | case3 c rest count large =>
    refine ⟨c :: rest, rfl, ?_⟩
    rintro _ _ ⟨⟩
    have nothing : size [] = 0 := rfl
    omega

/-- The same characters fit into a place that is larger by less than the next of them. -/
theorem takeBytes_of_le {text : List Char} {count fewer : Nat} (fits : size (takeBytes text count) ≤ fewer)
    (le : fewer ≤ count) : takeBytes text fewer = takeBytes text count := by
  obtain ⟨rest, split, late⟩ := exists_takeBytes_append text count
  have apart := takeBytes_append (takeBytes text count) rest fewer
  rw [← split, if_pos fits] at apart
  rw [apart]
  cases rest with
  | nil => exact List.append_nil _
  | cons c later =>
    have large := late c later rfl
    rw [takeBytes_of_lt (by omega), List.append_nil]

theorem isBoundary_append (text rest : List Char) : isBoundary (text ++ rest) (size text) = true := by
  induction text with
  | nil =>
    unfold isBoundary
    cases rest <;> rfl
  | cons c text ih =>
    obtain ⟨bytes, eq⟩ := Nat.exists_eq_add_one.mpr c.utf8Size_pos
    have next : size (c :: text) = size text + bytes + 1 := by rw [size_cons, eq]; omega
    rw [List.cons_append, next, isBoundary, eq]
    have rest_ : size text + bytes + 1 - (bytes + 1) = size text := by omega
    rw [rest_, ih, Bool.and_true, decide_eq_true_eq]
    omega

theorem isBoundary_takeBytes (text : List Char) (count : Nat) :
    isBoundary text (size (takeBytes text count)) = true := by
  obtain ⟨rest, split, -⟩ := exists_takeBytes_append text count
  have ends := isBoundary_append (takeBytes text count) rest
  rwa [← split] at ends

/-- As many bytes are taken as there are up to a boundary. -/
theorem size_takeBytes_of_isBoundary {text : List Char} {position : Nat}
    (boundary : isBoundary text position = true) : size (takeBytes text position) = position := by
  fun_induction isBoundary text position with
  | case1 text => exact Nat.le_zero.mp (size_takeBytes_le text 0)
  | case2 position => exact absurd boundary Bool.false_ne_true
  | case3 c rest position ih =>
    rw [Bool.and_eq_true, decide_eq_true_eq] at boundary
    obtain ⟨fits, onwards⟩ := boundary
    rw [takeBytes, if_pos fits, size_cons, ih onwards, Nat.add_sub_of_le fits]

theorem boundaryBefore_le (text : List Char) (position : Nat) : boundaryBefore text position ≤ position := by
  fun_induction boundaryBefore text position with
  | case1 => exact Nat.le_refl _
  | case2 => exact Nat.le_refl _
  | case3 position broken ih => exact Nat.le_succ_of_le ih

theorem isBoundary_boundaryBefore (text : List Char) (position : Nat) :
    isBoundary text (boundaryBefore text position) = true := by
  fun_induction boundaryBefore text position with
  | case1 =>
    unfold isBoundary
    rfl
  | case2 position whole => exact whole
  | case3 position broken ih => exact ih

/-- **The walk back from a position ends where the characters that fit end.** -/
theorem boundaryBefore_eq (text : List Char) (position : Nat) :
    boundaryBefore text position = size (takeBytes text position) := by
  have past := le_boundaryBefore (size_takeBytes_le text position) (isBoundary_takeBytes text position)
  rw [← takeBytes_of_le past (boundaryBefore_le text position),
    size_takeBytes_of_isBoundary (isBoundary_boundaryBefore text position)]

/-- **A cut leaves the characters that fit into the limit.** -/
theorem truncate_eq (text : String) : truncate text = String.ofList (takeBytes text.toList limit) := by
  simp only [truncate]
  split
  · rename_i fits
    rw [takeBytes_of_size_le fits, String.ofList_toList]
  · rw [boundaryBefore_eq, takeBytes_of_le (Nat.le_refl _) (size_takeBytes_le _ _)]

theorem size_truncate (text : String) : size (truncate text).toList = boundaryBefore text.toList limit := by
  rw [truncate_eq, String.toList_ofList, boundaryBefore_eq]

/-- **The longest beginning of a text that fits.** -/
structure Longest (count : Nat) (text part : String) : Prop where
  begins : part.toList <+: text.toList
  fits : size part.toList ≤ count
  longest : ∀ other : String, other.toList <+: text.toList → size other.toList ≤ count →
    other.toList <+: part.toList

theorem longest_truncate (text : String) : Longest limit text (truncate text) := by
  obtain ⟨rest, split, late⟩ := exists_takeBytes_append text.toList limit
  rw [truncate_eq]
  refine ⟨?_, ?_, fun other begins fits => ?_⟩
  · rw [String.toList_ofList]
    exact ⟨rest, split.symm⟩
  · rw [String.toList_ofList]
    exact size_takeBytes_le _ _
  · obtain ⟨later, rejoined⟩ := begins
    have apart := takeBytes_append other.toList later limit
    rw [rejoined, if_pos fits] at apart
    rw [String.toList_ofList, apart]
    exact List.prefix_append _ _

/-- Something is left of every text that is not empty. -/
theorem truncate_ne_empty {text : String} (shown : text ≠ "") : truncate text ≠ "" := by
  rw [truncate_eq]
  cases chars : text.toList with
  | nil => exact absurd (String.toList_eq_nil_iff.mp chars) shown
  | cons c rest =>
    have fits : c.utf8Size ≤ limit := Nat.le_trans c.utf8Size_le_four (by decide)
    rw [ne_eq, String.ofList_eq_empty_iff, takeBytes, if_pos fits]
    exact List.cons_ne_nil _ _

end CodeJudge.Cut
