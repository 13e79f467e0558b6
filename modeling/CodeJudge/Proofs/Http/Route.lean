import CodeJudge.Http.Message
import CodeJudge.Proofs.Http.Percent
import CodeJudge.Proofs.Http.Url

/-!
# Names on their way to a server

A client that writes names into the path of an address, and a server that cuts the path of a request and
decodes the parts. What a text may hold that stands for itself on the client's side, and what on the
server's, is not the same.

**The law** (`partsOf_pathOf_iff`). The server reads exactly the names that were written where each of them
stands for itself (`Stands`) and the last does not end in a blank. Otherwise it reads others, or fewer, or
more: no two faults of a path make up for each other.

The law is exact because nothing on the way makes a path longer. Cleaning, cutting and carrying out dots
take characters away, and encoding adds none that decoding leaves; so a path that comes out with the
names that went in has lost nothing, and was not changed at any step.
-/

namespace CodeJudge.Http

namespace Url

/-! ## Cutting -/

/-- Whether a character ends a segment. -/
def isSlash (c : Char) : Bool := c = '/' || c = '\\'

/-- The path of segments, each behind a slash. -/
def joined (segments : List (List Char)) : List Char := segments.flatMap ('/' :: ·)

/-- How long a path of segments is. -/
def span (segments : List (List Char)) : Nat := (joined segments).length

@[simp] theorem joined_cons (segment : List Char) (segments : List (List Char)) :
    joined (segment :: segments) = '/' :: (segment ++ joined segments) := rfl

@[simp] theorem span_cons (segment : List Char) (segments : List (List Char)) :
    span (segment :: segments) = segment.length + 1 + span segments := by
  rw [span, span, joined_cons, List.length_cons, List.length_append]
  omega

theorem span_reverse (segments : List (List Char)) : span segments.reverse = span segments :=
  ((List.reverse_perm segments).flatMap_right _).length_eq

theorem countP_joined (segments : List (List Char)) : (joined segments).countP isSlash =
    segments.length + segments.flatten.countP isSlash := by
  induction segments with
  | nil => rfl
  | cons segment segments ih =>
    rw [joined_cons, List.countP_cons_of_pos (by decide), List.countP_append, ih, List.length_cons,
      List.flatten_cons, List.countP_append]
    omega

/-- What is true of a slash is true of a whole path where it is true of the segments. -/
theorem forall_mem_joined {Holds : Char → Prop} (slash : Holds '/') {segments : List (List Char)} :
    (∀ c ∈ joined segments, Holds c) ↔ ∀ segment ∈ segments, ∀ c ∈ segment, Holds c := by
  constructor
  · intro all segment own c mem
    exact all c (List.mem_flatMap.mpr ⟨segment, own, List.mem_cons_of_mem _ mem⟩)
  · intro all c mem
    obtain ⟨segment, own, mem⟩ := List.mem_flatMap.mp mem
    rcases List.mem_cons.mp mem with rfl | mem
    · exact slash
    · exact all segment own c mem

/-- A path ends as its last segment does, or in a slash. -/
theorem getLast?_joined (segments : List (List Char)) (last : List Char) :
    (joined (segments ++ [last])).getLast? = some (last.getLast?.getD '/') := by
  rw [joined, List.flatMap_append, List.flatMap_singleton, List.getLast?_append, List.getLast?_cons,
    Option.some_or]

theorem segmentsFrom_append {segment : List Char} (whole : ∀ c ∈ segment, isSlash c = false)
    (held rest : List Char) :
    segmentsFrom held (segment ++ rest) = segmentsFrom (segment.reverse ++ held) rest := by
  induction segment generalizing held with
  | nil => rfl
  | cons c others ih =>
    have plain := whole c List.mem_cons_self
    rw [List.cons_append, segmentsFrom, if_neg (by simpa [isSlash] using plain),
      ih (fun d mem => whole d (List.mem_cons_of_mem _ mem)), List.reverse_cons, List.append_assoc,
      List.singleton_append]

/-- **A path is cut into the segments that it was joined from**, if no slash stands in them. -/
theorem segmentsFrom_joined {segments : List (List Char)}
    (whole : ∀ segment ∈ segments, ∀ c ∈ segment, isSlash c = false) (held : List Char) :
    segmentsFrom held (joined segments) = held.reverse :: segments := by
  induction segments generalizing held with
  | nil => rfl
  | cons segment segments ih =>
    obtain ⟨first, others⟩ := List.forall_mem_cons.mp whole
    rw [joined_cons, segmentsFrom, if_pos (by decide), segmentsFrom_append first, ih others,
      List.append_nil, List.reverse_reverse]

theorem span_segmentsFrom (held text : List Char) :
    span (segmentsFrom held text) = held.length + text.length + 1 := by
  fun_induction segmentsFrom held text with
  | case1 held => simp [span, joined]
  | case2 held c rest slash ih =>
    rw [span_cons, ih, List.length_reverse, List.length_nil, List.length_cons]
    omega
  | case3 held c rest plain ih =>
    rw [ih, List.length_cons, List.length_cons]
    omega

theorem length_segmentsFrom (held text : List Char) :
    (segmentsFrom held text).length = text.countP isSlash + 1 := by
  fun_induction segmentsFrom held text with
  | case1 => rfl
  | case2 held c rest slash ih =>
    rw [List.length_cons, ih, List.countP_cons_of_pos (by simpa [isSlash] using slash)]
  | case3 held c rest plain ih => rw [ih, List.countP_cons_of_neg (by simpa [isSlash] using plain)]

theorem mem_segmentsFrom {held text : List Char} (whole : ∀ c ∈ held, isSlash c = false) :
    ∀ segment ∈ segmentsFrom held text, ∀ c ∈ segment, isSlash c = false := by
  have reversed {held : List Char} (whole : ∀ c ∈ held, isSlash c = false) :
      ∀ c ∈ held.reverse, isSlash c = false := fun c mem => whole c (List.mem_reverse.mp mem)
  fun_induction segmentsFrom held text with
  | case1 held => exact List.forall_mem_singleton.mpr (reversed whole)
  | case2 held c rest slash ih => exact List.forall_mem_cons.mpr ⟨reversed whole, ih nofun⟩
  | case3 held c rest plain ih =>
    exact ih (List.forall_mem_cons.mpr ⟨by simpa [isSlash] using plain, whole⟩)

/-! ## Carrying out the segments of dots -/

/-- Whether a segment is one of dots. -/
def isDots (segment : List Char) : Bool := dotsOf segment = ['.'] || dotsOf segment = ['.', '.']

/-- How long a path of segments is once they are decoded. -/
def decodedSpan (segments : List (List Char)) : Nat :=
  span (segments.map fun segment => (Percent.decode segment).toList)

@[simp] theorem decodedSpan_cons (segment : List Char) (segments : List (List Char)) :
    decodedSpan (segment :: segments) = (Percent.decode segment).toList.length + 1 + decodedSpan segments :=
  span_cons _ _

theorem decodedSpan_reverse (segments : List (List Char)) :
    decodedSpan segments.reverse = decodedSpan segments := by
  rw [decodedSpan, decodedSpan, List.map_reverse, span_reverse]

theorem decodedSpan_tail (segments : List (List Char)) : decodedSpan segments.tail ≤ decodedSpan segments := by
  cases segments with
  | nil => exact le_rfl
  | cons segment segments => simp

/-- A path may hold every group. -/
theorem mayStandInPath_group (c : Char) (part : c = '%' ∨ (Percent.value? c).isSome) :
    mayStandInPath c = true := by
  rcases part with rfl | hexadecimal
  · decide
  · have table : ∀ n < 128, (Percent.value? (Char.ofNat n)).isSome → mayStandInPath (Char.ofNat n) = true := by
      decide
    have read := table c.toNat (Percent.toNat_of_value? hexadecimal)
    rw [Char.ofNat_toNat] at read
    exact read hexadecimal

theorem length_of_isDots {segment : List Char} (dots : isDots segment = true) : 0 < segment.length := by
  cases segment with
  | nil => cases dots
  | cons c rest => exact Nat.succ_pos _

/-- A segment of dots is taken out, at times with the one before it. At the end of a path a slash is left. -/
theorem walk_dots {segment : List Char} (dots : isDots segment = true) (kept rest : List (List Char)) :
    ∃ left, (left = kept ∨ left = kept.tail) ∧
      walk kept (segment :: rest) = if rest.isEmpty then ([] :: left).reverse else walk left rest := by
  simp only [isDots, Bool.or_eq_true, decide_eq_true_eq] at dots
  rcases dots with one | two
  · refine ⟨kept, .inl rfl, ?_⟩
    rw [walk, one, if_neg (by decide), if_pos rfl]
  · refine ⟨kept.tail, .inr rfl, ?_⟩
    rw [walk, two, if_pos rfl]

/-- Another segment is kept, and encoded. -/
theorem walk_cons {segment : List Char} (solid : isDots segment = false) (kept rest : List (List Char)) :
    walk kept (segment :: rest) = walk (Percent.encode mayStandInPath segment :: kept) rest := by
  simp only [isDots, Bool.or_eq_false_iff, decide_eq_false_iff_not] at solid
  rw [walk, if_neg solid.2, if_neg solid.1]

/-- A path without segments of dots is kept, and encoded. -/
theorem walk_solid {segments : List (List Char)} (solid : ∀ segment ∈ segments, isDots segment = false)
    (kept : List (List Char)) :
    walk kept segments = kept.reverse ++ segments.map (Percent.encode mayStandInPath) := by
  induction segments generalizing kept with
  | nil => simp [walk]
  | cons segment rest ih =>
    obtain ⟨first, others⟩ := List.forall_mem_cons.mp solid
    rw [walk_cons first, ih others, List.reverse_cons, List.append_assoc, List.map_cons, List.singleton_append]

/-- **Carrying out the segments of dots makes a path shorter**, and nothing else makes it longer. -/
theorem decodedSpan_walk (kept segments : List (List Char)) :
    decodedSpan (walk kept segments) ≤ decodedSpan kept + span segments ∧
      (decodedSpan (walk kept segments) = decodedSpan kept + span segments →
        ∀ segment ∈ segments, isDots segment = false) := by
  induction segments generalizing kept with
  | nil =>
    rw [walk, decodedSpan_reverse]
    exact ⟨le_rfl, fun _ => nofun⟩
  | cons segment rest ih =>
    cases dots : isDots segment with
    | true =>
      -- a segment of dots leaves the path shorter, whatever it leaves
      suffices decodedSpan (walk kept (segment :: rest)) < decodedSpan kept + span (segment :: rest) from
        ⟨this.le, fun same => absurd same this.ne⟩
      have long := length_of_isDots dots
      obtain ⟨left, among, walked⟩ := walk_dots dots kept rest
      have shorter : decodedSpan left ≤ decodedSpan kept := by
        rcases among with rfl | rfl
        · exact le_rfl
        · exact decodedSpan_tail kept
      rw [walked, span_cons]
      split
      · have blank : decodedSpan ([] :: left) = 0 + 1 + decodedSpan left := decodedSpan_cons [] left
        rw [decodedSpan_reverse, blank]
        omega
      · have bound := (ih left).1
        omega
    | false =>
      have read := Percent.length_decode segment
      obtain ⟨bound, exact_⟩ := ih (Percent.encode mayStandInPath segment :: kept)
      rw [decodedSpan_cons, Percent.decode_encode mayStandInPath_group] at bound exact_
      rw [walk_cons dots, span_cons]
      exact ⟨by omega, fun same => List.forall_mem_cons.mpr ⟨dots, exact_ (by omega)⟩⟩

/-- What is true of every segment that is kept, and of every one that is encoded, is true of those that
come out. -/
theorem forall_mem_walk {Holds : List Char → Prop} (blank : Holds []) {kept segments : List (List Char)}
    (before : ∀ segment ∈ kept, Holds segment)
    (encoded : ∀ segment ∈ segments, Holds (Percent.encode mayStandInPath segment)) :
    ∀ segment ∈ walk kept segments, Holds segment := by
  induction segments generalizing kept with
  | nil => simpa [walk] using before
  | cons segment rest ih =>
    obtain ⟨first, others⟩ := List.forall_mem_cons.mp encoded
    cases dots : isDots segment with
    | true =>
      obtain ⟨left, among, walked⟩ := walk_dots dots kept rest
      have stay : ∀ segment ∈ left, Holds segment := by
        rcases among with rfl | rfl
        · exact before
        · exact fun segment mem => before segment (List.mem_of_mem_tail mem)
      rw [walked]
      split
      · exact fun segment mem => List.forall_mem_cons.mpr ⟨blank, stay⟩ segment (List.mem_reverse.mp mem)
      · exact ih stay others
    | false =>
      rw [walk_cons dots]
      exact ih (List.forall_mem_cons.mpr ⟨first, before⟩) others

/-- A segment still has no slash when it is encoded, and no question mark. -/
theorem mem_encode {segment : List Char} (whole : ∀ c ∈ segment, isSlash c = false) :
    ∀ c ∈ Percent.encode mayStandInPath segment, isSlash c = false ∧ c ≠ '?' := by
  have grouped : ∀ n < 16, isSlash (Percent.digit n) = false ∧ Percent.digit n ≠ '?' := by decide
  intro c mem
  obtain ⟨d, own, mem⟩ := List.mem_flatMap.mp mem
  split at mem
  · rename_i stands
    cases List.mem_singleton.mp mem
    refine ⟨whole c own, ?_⟩
    rintro rfl
    exact absurd stands (by decide)
  · obtain ⟨byte, -, mem⟩ := List.mem_flatMap.mp mem
    have bound := byte.toNat_lt
    simp only [Percent.group, List.mem_cons, List.not_mem_nil, or_false] at mem
    rcases mem with rfl | rfl | rfl
    · decide
    · exact grouped _ (by omega)
    · exact grouped _ (by omega)

/-- What is left of a path and query when the fragment and the query are cut off. -/
def cut (text : List Char) : List Char := (text.takeWhile (· != '#')).takeWhile (· != '?')

theorem cut_sublist (text : List Char) : (cut text).Sublist text :=
  (List.takeWhile_sublist _).trans (List.takeWhile_sublist _)

theorem cut_eq_iff {text : List Char} : cut text = text ↔ ∀ c ∈ text, c ≠ '#' ∧ c ≠ '?' := by
  constructor
  · intro same
    have whole : text.takeWhile (· != '#') = text :=
      (List.takeWhile_sublist _).eq_of_length_le <| by
        conv_lhs => rw [← same]
        exact (List.takeWhile_sublist _).length_le
    rw [cut, whole] at same
    intro c mem
    exact ⟨bne_iff_ne.mp (List.takeWhile_eq_self_iff.mp whole c mem),
      bne_iff_ne.mp (List.takeWhile_eq_self_iff.mp same c mem)⟩
  · intro plain
    have whole : text.takeWhile (· != '#') = text :=
      List.takeWhile_eq_self_iff.mpr fun c mem => bne_iff_ne.mpr (plain c mem).1
    rw [cut, whole]
    exact List.takeWhile_eq_self_iff.mpr fun c mem => bne_iff_ne.mpr (plain c mem).2

/-- A target is a path, and behind a question mark what is left. -/
theorem targetOf_eq (text : List Char) : ∃ query,
    targetOf text = String.ofList (path ('/' :: cut text) ++ query) ∧ query.takeWhile (· != '?') = [] := by
  generalize bare : text.takeWhile (· != '#') = whole
  have left : whole.drop (whole.takeWhile (· != '?')).length = whole.dropWhile (· != '?') := calc
    _ = (whole.takeWhile (· != '?') ++ whole.dropWhile (· != '?')).drop
        (whole.takeWhile (· != '?')).length := by rw [List.takeWhile_append_dropWhile]
    _ = _ := List.drop_left
  refine ⟨Percent.encode mayStandInQuery (whole.dropWhile (· != '?')), ?_, ?_⟩
  · rw [targetOf, cut, bare, ← left]
  · have opens := List.head?_dropWhile_not (· != '?') whole
    cases query : whole.dropWhile (· != '?') with
    | nil => rfl
    | cons c rest =>
      rw [query] at opens
      have mark : c = '?' := by simpa using opens
      subst mark
      rfl

end Url

/-! ## What the server reads -/

theorem partsFrom_eq {text : List Char} (upright : ∀ c ∈ text, c ≠ '\\') (held : List Char) :
    partsFrom held text = Url.segmentsFrom held text := by
  induction text generalizing held with
  | nil => rfl
  | cons c rest ih =>
    obtain ⟨first, others⟩ := List.forall_mem_cons.mp upright
    simp only [partsFrom, Url.segmentsFrom, first, decide_false, Bool.or_false, decide_eq_true_eq, ih others]

/-- **A server reads the segments of the path that a client asks for**, each decoded. -/
theorem partsOf_targetOf (text : List Char) : partsOf (Url.targetOf text) =
    some ((Url.walk [] (Url.segmentsFrom [] (Url.cut text))).map Percent.decode) := by
  generalize walked : Url.walk [] (Url.segmentsFrom [] (Url.cut text)) = segments
  have whole : ∀ segment ∈ segments, ∀ c ∈ segment, Url.isSlash c = false ∧ c ≠ '?' := by
    have sliced : ∀ segment ∈ Url.segmentsFrom [] (Url.cut text), ∀ c ∈ segment, Url.isSlash c = false :=
      Url.mem_segmentsFrom nofun
    rw [← walked]
    refine Url.forall_mem_walk ?_ ?_ fun segment mem => Url.mem_encode (sliced segment mem)
    · exact nofun
    · exact nofun
  have plain : ∀ c ∈ Url.joined segments, c ≠ '\\' ∧ c ≠ '?' := by
    intro c mem
    obtain ⟨segment, own, mem⟩ := List.mem_flatMap.mp mem
    rcases List.mem_cons.mp mem with rfl | mem
    · decide
    · refine ⟨?_, (whole segment own c mem).2⟩
      rintro rfl
      exact absurd (whole segment own _ mem).1 (by decide)
  have path : Url.path ('/' :: Url.cut text) = Url.joined segments := by
    rw [← walked]
    rfl
  obtain ⟨query, target, opens⟩ := Url.targetOf_eq text
  rw [partsOf, target, path, String.toList_ofList,
    List.takeWhile_append_of_pos (fun c mem => bne_iff_ne.mpr (plain c mem).2), opens, List.append_nil,
    partsFrom_eq fun c mem => (plain c mem).1,
    Url.segmentsFrom_joined fun segment mem c own => (whole segment mem c own).1]
  rfl

/-! ## Which names come through -/

/-- The path of names, each behind a slash. -/
def pathOf (names : List String) : String := String.ofList (Url.joined (names.map String.toList))

/-- **A name that stands for itself in a path.** -/
structure Stands (name : String) : Prop where
  /-- No character of it cuts the path, ends it or is taken out of it. -/
  whole : ∀ c ∈ name.toList, c ∉ ['/', '\\', '?', '#', '\t', '\n', '\r']
  /-- It is no segment of dots. -/
  solid : name ≠ "." ∧ name ≠ ".."
  /-- Nothing in it would be decoded. -/
  bare : Percent.groups name.toList = 0

/-- **Names that a path carries.** -/
structure Carried (names : List String) : Prop where
  stands : ∀ name ∈ names, Stands name
  /-- The path ends in no blank, which would be cut off. -/
  closes : ∀ last ∈ names.getLast?, ∀ c ∈ last.toList.getLast?, Url.isEdge c = false

instance (name : String) : Decidable (Stands name) :=
  decidable_of_iff (name.toList.all (· ∉ ['/', '\\', '?', '#', '\t', '\n', '\r']) = true ∧
      (name ≠ "." ∧ name ≠ "..") ∧ Percent.groups name.toList = 0) <| by
    simp only [List.all_eq_true, decide_eq_true_eq]
    exact ⟨fun ⟨whole, solid, bare⟩ => ⟨whole, solid, bare⟩, fun ⟨whole, solid, bare⟩ => ⟨whole, solid, bare⟩⟩

instance (names : List String) : Decidable (Carried names) :=
  decidable_of_iff (names.all (Stands ·) = true ∧
      names.getLast?.all (·.toList.getLast?.all fun c => !Url.isEdge c) = true) <| by
    simp only [List.all_eq_true, Option.all_eq_true, decide_eq_true_eq, Bool.not_eq_true']
    exact ⟨fun ⟨stands, closes⟩ => ⟨stands, closes⟩, fun ⟨stands, closes⟩ => ⟨stands, closes⟩⟩

/-- Only dots make a segment of dots that holds no group. -/
theorem Url.dotsOf_of_groups {segment : List Char} (bare : Percent.groups segment = 0) :
    dotsOf segment = segment := by
  fun_induction dotsOf segment with
  | case1 rest ih => simp [Percent.groups, Percent.byte?, Percent.value?] at bare
  | case2 rest ih => simp [Percent.groups, Percent.byte?, Percent.value?] at bare
  | case3 c rest _ _ ih => rw [ih (Percent.groups_of_cons bare)]
  | case4 => rfl

section

variable {names : List String} {rest : List Char}
  (path : Url.joined (names.map String.toList) = '/' :: rest)
include path

/-- A path ends as the last name does. -/
theorem closes_rest_iff : (∀ c ∈ rest.getLast?, Url.isEdge c = false) ↔
    ∀ last ∈ names.getLast?, ∀ c ∈ last.toList.getLast?, Url.isEdge c = false := by
  have slash (end_ : Option Char) :
      (∀ c ∈ end_, Url.isEdge c = false) ↔ Url.isEdge (end_.getD '/') = false := by
    cases end_ with
    | none => exact ⟨fun _ => by decide, fun _ => nofun⟩
    | some c => simp
  rcases names.eq_nil_or_concat with rfl | ⟨front, last, rfl⟩
  · cases path
  · rw [List.concat_eq_append] at path ⊢
    have ends := congrArg List.getLast? path
    rw [List.map_append, List.map_singleton, Url.getLast?_joined, List.getLast?_cons] at ends
    simp only [List.getLast?_concat, Option.mem_some_iff, forall_eq', slash, Option.some.inj ends]

theorem segmentsFrom_rest (whole : ∀ name ∈ names, ∀ c ∈ name.toList, Url.isSlash c = false) :
    Url.segmentsFrom [] rest = names.map String.toList := by
  have cut : Url.segmentsFrom [] ('/' :: rest) = [] :: names.map String.toList := by
    rw [← path, Url.segmentsFrom_joined (List.forall_mem_map.mpr whole), List.reverse_nil]
  rw [Url.segmentsFrom, if_pos (by decide), List.reverse_nil] at cut
  exact (List.cons.inj cut).2

/-- A path that is cut into no more segments than there are names has no slashes in the names. -/
theorem whole_of_length (number : (Url.segmentsFrom [] rest).length = names.length) :
    ∀ name ∈ names, ∀ c ∈ name.toList, Url.isSlash c = false := by
  have count := Url.countP_joined (names.map String.toList)
  rw [path, List.countP_cons_of_pos (by decide), List.length_map] at count
  have cut := Url.length_segmentsFrom [] rest
  have none : (names.map String.toList).flatten.countP Url.isSlash = 0 := by omega
  intro name mem c own
  have inside := List.mem_flatten_of_mem (List.mem_map_of_mem mem) own
  exact Bool.eq_false_iff.mpr (List.countP_eq_zero.mp none c inside)

/-- A path that comes out with as many characters as went in was left as it was. -/
theorem walk_eq_iff :
    (Url.walk [] (Url.segmentsFrom [] (Url.cut (Url.trim rest)))).map Percent.decode = names ↔
      Url.cut (Url.trim rest) = rest ∧ ∀ name ∈ names, (∀ c ∈ name.toList, Url.isSlash c = false) ∧
        Url.isDots name.toList = false ∧ Percent.groups name.toList = 0 := by
  have decoded : (fun segment => Percent.decode (Percent.encode Url.mayStandInPath segment)) = Percent.decode :=
    funext fun segment => Percent.decode_encode Url.mayStandInPath_group segment
  constructor
  · intro same
    have shorter := ((Url.cut_sublist (Url.trim rest)).trans (Url.trim_sublist rest)).length_le
    have length : Url.decodedSpan (Url.walk [] (Url.segmentsFrom [] (Url.cut (Url.trim rest)))) =
        rest.length + 1 := by
      rw [← List.length_cons, ← path, ← same, List.map_map]
      rfl
    have total := Url.span_segmentsFrom [] (Url.cut (Url.trim rest))
    obtain ⟨bound, solid⟩ := Url.decodedSpan_walk [] (Url.segmentsFrom [] (Url.cut (Url.trim rest)))
    have none : Url.decodedSpan [] = 0 := rfl
    have kept : Url.cut (Url.trim rest) = rest :=
      ((Url.cut_sublist _).trans (Url.trim_sublist rest)).eq_of_length_le (by grind)
    rw [kept] at same solid length total
    have undotted := solid (by grind)
    rw [Url.walk_solid undotted, List.reverse_nil, List.nil_append, List.map_map,
      Function.comp_def, decoded] at same
    have slashes := whole_of_length path (by simpa using congrArg List.length same)
    rw [segmentsFrom_rest path slashes] at same undotted
    rw [List.map_map] at same
    have each := List.map_inj_left.mp (same.trans (List.map_id names).symm)
    refine ⟨kept, fun name mem => ⟨slashes name mem, undotted _ (List.mem_map_of_mem mem), ?_⟩⟩
    exact Percent.decode_eq_iff.mp (congrArg String.toList (each name mem))
  · rintro ⟨kept, plain⟩
    rw [kept, segmentsFrom_rest path fun name mem => (plain name mem).1,
      Url.walk_solid (List.forall_mem_map.mpr fun name mem => (plain name mem).2.1), List.reverse_nil,
      List.nil_append, List.map_map, List.map_map, Function.comp_def, Function.comp_def]
    refine (List.map_congr_left fun name mem => ?_).trans (List.map_id' names)
    show Percent.decode (Percent.encode Url.mayStandInPath name.toList) = name
    rw [Percent.decode_encode Url.mayStandInPath_group, ← String.toList_inj]
    exact Percent.decode_eq_iff.mpr (plain name mem).2.2

/-- A path is left as it was where nothing in it is taken out or cut off. -/
theorem cut_trim_eq_iff : Url.cut (Url.trim rest) = rest ↔
    (∀ last ∈ names.getLast?, ∀ c ∈ last.toList.getLast?, Url.isEdge c = false) ∧
      ∀ name ∈ names, ∀ c ∈ name.toList, Url.isBreak c = false ∧ c ≠ '#' ∧ c ≠ '?' := by
  have parts : Url.cut (Url.trim rest) = rest ↔ Url.trim rest = rest ∧ Url.cut rest = rest := by
    constructor
    · intro same
      have trimmed : Url.trim rest = rest := (Url.trim_sublist rest).eq_of_length_le <| by
        conv_lhs => rw [← same]
        exact (Url.cut_sublist _).length_le
      exact ⟨trimmed, by rwa [trimmed] at same⟩
    · rintro ⟨trimmed, whole⟩
      rw [trimmed, whole]
  have chars (Holds : Char → Prop) (slash : Holds '/') :
      (∀ c ∈ rest, Holds c) ↔ ∀ name ∈ names, ∀ c ∈ name.toList, Holds c := by
    rw [← List.forall_mem_map (P := fun segment => ∀ c ∈ segment, Holds c), ← Url.forall_mem_joined slash, path,
      List.forall_mem_cons, and_iff_right slash]
  rw [parts, Url.trim_eq_iff, Url.cut_eq_iff, closes_rest_iff path, and_assoc,
    chars (Url.isBreak · = false) (by decide), chars (fun c => c ≠ '#' ∧ c ≠ '?') (by decide)]
  grind

end

/-- **A server reads the names that a client wrote exactly where the path carries them.** -/
theorem partsOf_pathOf_iff {address : String} (plain : Url.isPlain address = true) {first : String}
    {others : List String} :
    partsOf (Url.ofText ("http://" ++ address ++ pathOf (first :: others))).target = some (first :: others) ↔
      Carried (first :: others) := by
  generalize written : first.toList ++ Url.joined (others.map String.toList) = rest
  have path : Url.joined ((first :: others).map String.toList) = '/' :: rest := by
    rw [List.map_cons, Url.joined_cons, written]
  have rooted : (pathOf (first :: others)).toList = '/' :: rest := by rw [pathOf, String.toList_ofList, path]
  rw [Url.ofText_rooted plain rooted, partsOf_targetOf, Option.some.injEq, walk_eq_iff path,
    cut_trim_eq_iff path]
  constructor
  · rintro ⟨⟨closes, kept⟩, whole⟩
    refine ⟨fun name mem => ?_, closes⟩
    obtain ⟨slashes, undotted, bare⟩ := whole name mem
    rw [Url.isDots, Url.dotsOf_of_groups bare] at undotted
    refine ⟨fun c own => ?_, ⟨?_, ?_⟩, bare⟩
    · have slash := slashes c own
      have others := kept name mem c own
      simp_all [Url.isSlash, Url.isBreak]
    · rintro rfl
      exact absurd undotted (by decide)
    · rintro rfl
      exact absurd undotted (by decide)
  · rintro ⟨stands, closes⟩
    refine ⟨⟨closes, fun name mem c own => ?_⟩, fun name mem => ⟨fun c own => ?_, ?_, (stands name mem).bare⟩⟩
    · have whole := (stands name mem).whole c own
      simp_all [Url.isBreak]
    · have whole := (stands name mem).whole c own
      simp_all [Url.isSlash]
    · obtain ⟨single, double⟩ := (stands name mem).solid
      rw [Url.isDots, Url.dotsOf_of_groups (stands name mem).bare]
      simpa [← String.toList_inj] using And.intro single double

end CodeJudge.Http
