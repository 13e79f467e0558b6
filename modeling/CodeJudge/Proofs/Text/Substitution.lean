import CodeJudge.Text.Substitution
import Mathlib.Data.List.Infix
import Mathlib.Data.List.Perm.Basic

/-!
# Substitution in any order

Keys are replaced by their values one after another, each in the text that the ones before it have left. What
comes of that may depend on their order: keys that begin and end with the same sign can share it, as in
`%A%B%`, and then the one that comes first takes it from the other.

**The law** (`Distinct.substitute_perm_iff`), for keys that are framed by a sign and values that keep apart
from them: what comes of a text is the same in every order exactly if the text is `Clear`, that is, if it can
be read from the left as characters and keys such that no other key begins at the end of one. It is then what
comes of replacing all the keys at once.

**What it does not establish.** Anything of values that have part in an occurrence of a key.
-/

namespace CodeJudge.Substitution

/-! ## One key -/

section

variable {key value text rest : List Char}

theorem replaceFrom_eq (key value : List Char) (skip : Nat) (text : List Char) :
    replaceFrom key value skip text = replaceFrom key value 0 (text.drop skip) := by
  induction skip generalizing text with
  | zero => rfl
  | succ skip ih =>
    cases text with
    | nil => rfl
    | cons c rest => exact ih rest

theorem replaceAll_eq (nonempty : key ≠ []) : replaceAll key value text = replaceFrom key value 0 text :=
  if_neg (by rwa [List.isEmpty_iff])

theorem replaceAll_nil (nonempty : key ≠ []) : replaceAll key value [] = [] := by
  rw [replaceAll_eq nonempty, replaceFrom]

/-- Where the key does not begin, a character stays. -/
theorem replaceAll_cons {c : Char} (nonempty : key ≠ []) (other : ¬ key <+: c :: rest) :
    replaceAll key value (c :: rest) = c :: replaceAll key value rest := by
  rw [replaceAll_eq nonempty, replaceAll_eq nonempty, replaceFrom, if_neg (by rwa [List.isPrefixOf_iff_prefix])]

theorem replaceAll_key (nonempty : key ≠ []) :
    replaceAll key value (key ++ rest) = value ++ replaceAll key value rest := by
  obtain ⟨c, others, rfl⟩ := List.exists_cons_of_ne_nil nonempty
  rw [replaceAll_eq nonempty, replaceAll_eq nonempty, List.cons_append, replaceFrom, replaceFrom_eq, if_pos]
  · rw [List.length_cons, Nat.add_sub_cancel, List.drop_left]
  · rw [List.isPrefixOf_iff_prefix, ← List.cons_append]
    exact List.prefix_append _ _

/-- A part of a text in which the key begins nowhere is passed over. -/
theorem replaceAll_append (nonempty : key ≠ [])
    (nowhere : ∀ left right, text ++ rest = left ++ key ++ right → text.length ≤ left.length) :
    replaceAll key value (text ++ rest) = text ++ replaceAll key value rest := by
  induction text with
  | nil => rfl
  | cons c text ih =>
    have other : ¬ key <+: c :: (text ++ rest) := by
      rintro ⟨right, same⟩
      have late := nowhere [] right same.symm
      rw [List.length_cons, List.length_nil] at late
      omega
    have later : ∀ left right, text ++ rest = left ++ key ++ right → text.length ≤ left.length := by
      intro left right same
      have late := nowhere (c :: left) right (congrArg (c :: ·) same)
      simpa using late
    rw [List.cons_append, replaceAll_cons nonempty other, ih later, List.cons_append]

end

/-! ## Values that keep apart -/

/-- **A value keeps apart from a key**: wherever it stands in a text, no occurrence of the key has part in
it. -/
def Apart (key value : List Char) : Prop :=
  ∀ before after left right : List Char, before ++ value ++ after = left ++ key ++ right →
    left.length + key.length ≤ before.length ∨ before.length + value.length ≤ left.length

/-- Whatever end of a key the one text begins with, the other begins with, so that nothing before them can be
completed to the key in the one alone. -/
def Below (key one other : List Char) : Prop :=
  ∀ start rest : List Char, start ≠ [] → key = start ++ rest → rest <+: one → rest <+: other

section

variable {key value before one other : List Char}

theorem Apart.replaceAll_append (apart : Apart key value) (nonempty : key ≠ []) (absent : ¬ key <:+: before)
    (own rest : List Char) :
    replaceAll key own (before ++ value ++ rest) = before ++ value ++ replaceAll key own rest := by
  refine Substitution.replaceAll_append nonempty fun left right same => ?_
  rw [List.length_append]
  refine (apart _ _ _ _ same).resolve_left fun early => absent ?_
  have within : left ++ key <+: before :=
    List.prefix_of_prefix_length_le ⟨right, same.symm⟩ ⟨value ++ rest, (List.append_assoc _ _ _).symm⟩
      (by rwa [List.length_append])
  exact (List.suffix_append left key).isInfix.trans within.isInfix

theorem Below.refl (key text : List Char) : Below key text text := fun _ _ _ _ begins => begins

theorem Below.append_left (below : Below key one other) (text : List Char) :
    Below key (text ++ one) (text ++ other) := by
  intro start rest nonempty eq begins
  rcases List.prefix_or_prefix_of_prefix begins (List.prefix_append text one) with short | ⟨more, rfl⟩
  · exact short.trans (List.prefix_append text other)
  · rw [List.prefix_append_right_inj] at begins ⊢
    refine below (start ++ text) _ (by simp [nonempty]) ?_ begins
    rw [eq, List.append_assoc]

/-- A key that begins before the one text begins before the other. -/
theorem Below.prefix_cons (below : Below key one other) {c : Char} (begins : key <+: c :: one) :
    key <+: c :: other := by
  cases key with
  | nil => exact List.nil_prefix
  | cons d rest =>
    obtain ⟨rfl, follows⟩ := List.cons_prefix_cons.mp begins
    exact List.cons_prefix_cons.mpr ⟨rfl, below [d] rest (List.cons_ne_nil d []) rfl follows⟩

/-- A value that keeps apart ends whatever begins before it. -/
theorem Apart.below (apart : Apart key value) (within : before <+: other) (after : List Char) :
    Below key (before ++ value ++ after) other := by
  rintro start rest nonempty eq ⟨right, same⟩
  have whole : start ++ before ++ value ++ after = [] ++ key ++ right := by
    rw [eq, List.nil_append, List.append_assoc start rest, same]
    simp only [List.append_assoc]
  rcases apart _ _ _ _ whole with early | late
  · have short : rest.length ≤ before.length := by
      rw [eq] at early
      simp only [List.length_append, List.length_nil] at early
      omega
    have begins : rest <+: before :=
      List.prefix_of_prefix_length_le ⟨right, same⟩ ⟨value ++ after, (List.append_assoc _ _ _).symm⟩ short
    exact begins.trans within
  · rw [List.length_append, List.length_nil] at late
    exact absurd (List.length_eq_zero_iff.mp (by omega)) nonempty

end

/-! ## Keys that a sign frames -/

/-- A key that begins and ends with a sign, and does not have it in between. -/
def Framed (sign : Char) (key : List Char) : Prop :=
  ∃ name, sign ∉ name ∧ key = sign :: (name ++ [sign])

section

variable {sign : Char} {key other value rest left right : List Char}

theorem Framed.ne_nil (framed : Framed sign key) : key ≠ [] := by
  obtain ⟨name, -, rfl⟩ := framed
  exact List.cons_ne_nil _ _

theorem Framed.eq_cons (framed : Framed sign key) : key = sign :: key.tail := by
  obtain ⟨name, -, rfl⟩ := framed
  rfl

/-- A text is cut at the first sign in one way. -/
theorem eq_of_cut {name before : List Char} (plain : sign ∉ name) (short : before.length ≤ name.length)
    (same : name ++ sign :: rest = before ++ sign :: right) : name = before ∧ rest = right := by
  rcases List.append_eq_append_iff.mp same with ⟨gap, rfl, cut⟩ | ⟨gap, rfl, cut⟩
  · rw [List.length_append] at short
    obtain rfl := List.length_eq_zero_iff.mp (show gap.length = 0 by omega)
    exact ⟨(List.append_nil name).symm, (List.cons.inj cut).2⟩
  · cases gap with
    | nil => exact ⟨List.append_nil before, (List.cons.inj cut).2.symm⟩
    | cons d gap =>
      obtain ⟨rfl, -⟩ := List.cons.inj cut
      exact absurd (List.mem_append_right before (List.mem_cons_self ..)) plain

/-- **Two keys overlap in their sign alone**: an occurrence of another key that begins in a key begins at the
end of it. -/
theorem Framed.overlap (framed : Framed sign key) (otherFramed : Framed sign other) (distinct : other ≠ key)
    (same : key ++ rest = left ++ other ++ right) (early : left.length < key.length) :
    left.length + 1 = key.length ∧ other.tail <+: rest := by
  obtain ⟨name, plain, rfl⟩ := framed
  obtain ⟨otherName, otherPlain, rfl⟩ := otherFramed
  cases left with
  | nil =>
    simp only [List.cons_append, List.nil_append, List.append_assoc, List.cons.injEq, true_and] at same
    have names : name = otherName := by
      rcases Nat.le_total otherName.length name.length with short | short
      · exact (eq_of_cut plain short same).1
      · exact (eq_of_cut otherPlain short same.symm).1.symm
    exact absurd (by rw [names]) distinct
  | cons c left =>
    simp only [List.cons_append, List.append_assoc, List.nil_append, List.cons.injEq] at same
    simp only [List.length_cons, List.length_append, List.length_nil] at early
    obtain ⟨rfl, same⟩ := same
    obtain ⟨rfl, rfl⟩ := eq_of_cut plain (by omega) same
    exact ⟨by simp, right, by simp⟩

/-- No key fits between its sign and the next. -/
theorem Framed.not_isInfix (framed : Framed sign key) {name : List Char} (plain : sign ∉ name) :
    ¬ key <:+: sign :: name := by
  obtain ⟨own, -, rfl⟩ := framed
  rintro ⟨left, right, same⟩
  cases left with
  | nil =>
    obtain ⟨-, rfl⟩ := List.cons.inj same
    exact plain (by simp)
  | cons c left =>
    obtain ⟨-, rfl⟩ := List.cons.inj same
    exact plain (by simp)

/-- Where two keys share a sign, a pass that replaces the second one leaves the first without it. -/
theorem Framed.replaceAll_shared (framed : Framed sign key) (otherFramed : Framed sign other)
    (distinct : other ≠ key) {name : List Char} (eq : key = sign :: (name ++ [sign])) (own last : List Char) :
    replaceAll other own (key ++ (other.tail ++ last)) = sign :: name ++ own ++ replaceAll other own last := by
  have split : key ++ (other.tail ++ last) = sign :: name ++ (other ++ last) := by
    rw [otherFramed.eq_cons, eq]
    simp
  rw [split, replaceAll_append otherFramed.ne_nil fun left right same => ?_, replaceAll_key otherFramed.ne_nil,
    List.append_assoc]
  by_contra early
  have length : key.length = (sign :: name).length + 1 := by rw [eq]; simp
  have overlap := framed.overlap otherFramed distinct (split.trans same) (by omega)
  omega

/-- A value that keeps apart from a key is not empty, and does not begin with the sign. -/
theorem Apart.append_ne_cons (apart : Apart key value) (framed : Framed sign key) (rest other : List Char) :
    value ++ rest ≠ sign :: other := by
  obtain ⟨name, -, rfl⟩ := framed
  intro same
  cases value with
  | nil =>
    have inside := apart [sign] (name ++ [sign]) [] [] (by simp)
    simp only [List.length_nil, List.length_cons, List.length_append] at inside
    omega
  | cons c value =>
    obtain ⟨rfl, -⟩ := List.cons.inj same
    have inside := apart (c :: name) [] [] value (by simp)
    simp only [List.length_nil, List.length_cons, List.length_append] at inside
    omega

theorem getElem?_middle {before text after : List Char} {i : Nat} (start : before.length ≤ i)
    (stop : i < before.length + text.length) : (before ++ text ++ after)[i]? = text[i - before.length]? := by
  rw [List.append_assoc, List.getElem?_append_right start, List.getElem?_append_left (by omega)]

/-- A value without the sign keeps apart from a key, unless it is a part of it. -/
theorem Framed.apart (framed : Framed sign key) (plain : sign ∉ value) {c : Char} (there : c ∈ value)
    (foreign : c ∉ key) : Apart key value := by
  obtain ⟨name, -, rfl⟩ := framed
  intro before after left right same
  by_contra touches
  rw [not_or, Nat.not_le, Nat.not_le] at touches
  obtain ⟨late, early⟩ := touches
  have common {i : Nat} (start : before.length ≤ i) (stop : i < before.length + value.length)
      (keyStart : left.length ≤ i) (keyStop : i < left.length + (sign :: (name ++ [sign])).length) :
      value[i - before.length]? = (sign :: (name ++ [sign]))[i - left.length]? := by
    rw [← getElem?_middle start stop, same, getElem?_middle keyStart keyStop]
  simp only [List.length_cons, List.length_append, List.length_nil] at late common
  by_cases first : before.length ≤ left.length
  · -- the first sign would be in the value
    have own := common first early (Nat.le_refl _) (by omega)
    rw [Nat.sub_self, List.getElem?_cons_zero] at own
    exact plain (List.mem_of_getElem? own)
  by_cases last : left.length + name.length + 1 < before.length + value.length
  · -- the second one would be
    have own := common (i := left.length + name.length + 1) (by omega) last (by omega) (by omega)
    have index : left.length + name.length + 1 - left.length = name.length + 1 := by omega
    rw [index, List.getElem?_cons_succ, List.getElem?_concat_length] at own
    exact plain (List.mem_of_getElem? own)
  · -- the value would be in the key
    obtain ⟨j, found⟩ := List.mem_iff_getElem?.mp there
    have short : j < value.length := (List.getElem?_eq_some_iff.mp found).1
    have own := common (i := before.length + j) (by omega) (by omega) (by omega) (by omega)
    rw [Nat.add_sub_cancel_left, found] at own
    exact foreign (List.mem_of_getElem? own.symm)

end

/-! ## Reading a text -/

/-- A part of a text: a character, or a key. -/
inductive Piece
  | char (c : Char)
  | key (name : String)

/-- A piece in a text in which some keys are replaced. -/
def Piece.rendered (value : String → String) (done : List String) : Piece → List Char
  | char c => [c]
  | key name => if name ∈ done then (value name).toList else name.toList

/-- A text of pieces in which some keys are replaced. -/
def rendered (value : String → String) (done : List String) (pieces : List Piece) : List Char :=
  pieces.flatMap (Piece.rendered value done)

/-- The text that pieces spell. -/
def spelled (pieces : List Piece) : List Char := rendered id [] pieces

/-- **Pieces that stand in a text as it is read from the left**, and are followed by a tail: where one of them
is a character, no key begins, and where one is a key, no other key begins at the end of it. -/
inductive Settled (keys : List String) (tail : List Char) : List Piece → Prop
  | nil : Settled keys tail []
  | char {c : Char} {pieces : List Piece}
      (nowhere : ∀ key ∈ keys, ¬ key.toList <+: c :: (spelled pieces ++ tail))
      (rest : Settled keys tail pieces) : Settled keys tail (.char c :: pieces)
  | key {name : String} {pieces : List Piece} (listed : name ∈ keys)
      (alone : ∀ other ∈ keys, other ≠ name → ¬ other.toList.tail <+: spelled pieces ++ tail)
      (rest : Settled keys tail pieces) : Settled keys tail (.key name :: pieces)

/-- **A text is clear**: wherever a key is met in it, read from the left, no other key begins at the end of
that. -/
def Clear (keys : List String) (text : List Char) : Prop :=
  ∃ pieces, spelled pieces = text ∧ Settled keys [] pieces

/-- **A text is torn** at its beginning: that is a key, and another key begins at the end of it. -/
inductive Torn (keys : List String) : List Char → Prop
  | intro {name other : String} {rest : List Char} (listed : name ∈ keys) (otherListed : other ∈ keys)
      (distinct : other ≠ name) (shared : other.toList.tail <+: rest) : Torn keys (name.toList ++ rest)

section

variable {value : String → String} {keys done : List String} {pieces : List Piece} {name : String} {c : Char}

@[simp] theorem rendered_char :
    rendered value done (.char c :: pieces) = c :: rendered value done pieces := rfl

theorem rendered_key_of_mem (replaced : name ∈ done) :
    rendered value done (.key name :: pieces) = (value name).toList ++ rendered value done pieces := by
  rw [rendered, List.flatMap_cons, Piece.rendered, if_pos replaced, rendered]

theorem rendered_key_of_notMem (left : name ∉ done) :
    rendered value done (.key name :: pieces) = name.toList ++ rendered value done pieces := by
  rw [rendered, List.flatMap_cons, Piece.rendered, if_neg left, rendered]

@[simp] theorem spelled_nil : spelled [] = [] := rfl

@[simp] theorem spelled_char : spelled (.char c :: pieces) = c :: spelled pieces := rfl

@[simp] theorem spelled_key : spelled (.key name :: pieces) = name.toList ++ spelled pieces := rfl

theorem rendered_nil (value : String → String) (pieces : List Piece) :
    rendered value [] pieces = spelled pieces :=
  List.flatMap_congr fun piece _ => by cases piece <;> rfl

/-- Which keys are replaced is all that counts. -/
theorem rendered_congr {tail : List Char} {other : List String} (settled : Settled keys tail pieces)
    (same : ∀ key ∈ keys, key ∈ done ↔ key ∈ other) :
    rendered value done pieces = rendered value other pieces := by
  induction settled with
  | nil => rfl
  | char _ _ ih => rw [rendered_char, rendered_char, ih]
  | @key name pieces listed _ _ ih =>
    by_cases replaced : name ∈ done
    · rw [rendered_key_of_mem replaced, rendered_key_of_mem ((same name listed).mp replaced), ih]
    · rw [rendered_key_of_notMem replaced, rendered_key_of_notMem ((same name listed).not.mp replaced), ih]

/-- A text is read from the left to its end, or to where it is torn. -/
theorem exists_settled (nonempty : ∀ key ∈ keys, key.toList ≠ []) (text : List Char) :
    ∃ pieces tail, text = spelled pieces ++ tail ∧ Settled keys tail pieces ∧ (tail = [] ∨ Torn keys tail) := by
  -- by induction on the length, since a key takes several characters at once
  induction length : text.length using Nat.strong_induction_on generalizing text with
  | _ length ih =>
    subst length
    cases text with
    | nil => exact ⟨[], [], rfl, .nil, .inl rfl⟩
    | cons c rest =>
      by_cases begins : ∃ key ∈ keys, key.toList <+: c :: rest
      · obtain ⟨name, listed, after, split⟩ := begins
        rw [← split]
        by_cases alone : ∀ other ∈ keys, other ≠ name → ¬ other.toList.tail <+: after
        · have shorter : after.length < (c :: rest).length := by
            have positive := List.length_pos_of_ne_nil (nonempty name listed)
            rw [← split, List.length_append]
            omega
          obtain ⟨pieces, tail, rfl, settled, ends⟩ := ih after.length shorter after rfl
          exact ⟨.key name :: pieces, tail, (List.append_assoc _ _ _).symm, .key listed alone settled, ends⟩
        · simp only [not_forall, not_not, exists_prop] at alone
          obtain ⟨other, otherListed, distinct, shared⟩ := alone
          exact ⟨[], name.toList ++ after, rfl, .nil, .inr ⟨listed, otherListed, distinct, shared⟩⟩
      · obtain ⟨pieces, tail, rfl, settled, ends⟩ := ih rest.length (Nat.lt_succ_self _) rest rfl
        have nowhere (key : String) (listed : key ∈ keys) (starts : key.toList <+: c :: (spelled pieces ++ tail)) :
            False := begins ⟨key, listed, starts⟩
        exact ⟨.char c :: pieces, tail, rfl, .char nowhere settled, ends⟩

theorem clear_nil (keys : List String) : Clear keys [] := ⟨[], rfl, .nil⟩

/-- A text without the sign in front of a clear one leaves it clear. -/
theorem Clear.plain_append {sign : Char} {rest : List Char} (clear : Clear keys rest)
    (framed : ∀ key ∈ keys, Framed sign key.toList) {text : List Char} (plain : sign ∉ text) :
    Clear keys (text ++ rest) := by
  induction text with
  | nil => exact clear
  | cons c text ih =>
    obtain ⟨pieces, spells, settled⟩ := ih fun there => plain (List.mem_cons_of_mem c there)
    refine ⟨.char c :: pieces, congrArg (c :: ·) spells, .char (fun key listed begins => plain ?_) settled⟩
    rw [(framed key listed).eq_cons, List.cons_prefix_cons] at begins
    rw [begins.1]
    exact List.mem_cons_self ..

/-- A key in front of a clear text leaves it clear, unless another key begins at the end of it. -/
theorem Clear.key_append {rest : List Char} (clear : Clear keys rest) (listed : name ∈ keys)
    (alone : ∀ other ∈ keys, other ≠ name → ¬ other.toList.tail <+: rest) :
    Clear keys (name.toList ++ rest) := by
  obtain ⟨pieces, rfl, settled⟩ := clear
  refine ⟨.key name :: pieces, rfl, .key listed (fun other there distinct => ?_) settled⟩
  rw [List.append_nil]
  exact alone other there distinct

end

/-! ## Several keys -/

/-- Replaces keys by their values, one after another. -/
def substitute (value : String → String) (order : List String) (text : List Char) : List Char :=
  order.foldl (fun text key => replaceAll key.toList (value key).toList text) text

/-- **Keys that can be told from each other and from what they stand for.** -/
structure Distinct (sign : Char) (value : String → String) (keys : List String) : Prop where
  once : keys.Nodup
  framed : ∀ key ∈ keys, Framed sign key.toList
  apart : ∀ key ∈ keys, ∀ other ∈ keys, Apart key.toList (value other).toList

namespace Distinct

variable {sign : Char} {value : String → String} {keys done order : List String} {pieces : List Piece}
  {key : String} {text tail : List Char}

/-- Replacing keys in a text brings no part of another key to the front. -/
theorem below_rendered (distinct : Distinct sign value keys) (listed : key ∈ keys)
    (settled : Settled keys tail pieces) (below : Below key.toList text tail) :
    Below key.toList (rendered value done pieces ++ text) (spelled pieces ++ tail) := by
  induction settled with
  | nil => exact below
  | @char c pieces _ _ ih => exact ih.append_left [c]
  | @key name pieces own _ _ ih =>
    by_cases replaced : name ∈ done
    · rw [rendered_key_of_mem replaced, List.append_assoc]
      exact (distinct.apart key listed name own).below List.nil_prefix _
    · rw [rendered_key_of_notMem replaced, spelled_key, List.append_assoc, List.append_assoc]
      exact ih.append_left name.toList

/-- **One key more is replaced** by one pass through a text, in the pieces that are settled. -/
theorem replaceAll_rendered (distinct : Distinct sign value keys) (listed : key ∈ keys) (new : key ∉ done)
    (settled : Settled keys tail pieces) (below : Below key.toList text tail) :
    replaceAll key.toList (value key).toList (rendered value done pieces ++ text) =
      rendered value (key :: done) pieces ++ replaceAll key.toList (value key).toList text := by
  have nonempty := (distinct.framed key listed).ne_nil
  induction settled with
  | nil => rfl
  | @char c pieces nowhere rest ih =>
    have other : ¬ key.toList <+: c :: (rendered value done pieces ++ text) := fun begins =>
      nowhere key listed ((distinct.below_rendered listed rest below).prefix_cons begins)
    rw [rendered_char, rendered_char, List.cons_append, List.cons_append, replaceAll_cons nonempty other, ih]
  | @key name pieces nameListed alone rest ih =>
    by_cases same : name = key
    · subst same
      rw [rendered_key_of_notMem new, rendered_key_of_mem (List.mem_cons_self ..), List.append_assoc,
        List.append_assoc, replaceAll_key nonempty, ih]
    · by_cases replaced : name ∈ done
      · rw [rendered_key_of_mem replaced, rendered_key_of_mem (List.mem_cons_of_mem _ replaced),
          List.append_assoc, List.append_assoc, ← ih]
        exact (distinct.apart key listed name nameListed).replaceAll_append nonempty
          (fun inside => nonempty (List.infix_nil.mp inside)) _ _
      · have left : name ∉ key :: done := by simp [same, replaced]
        rw [rendered_key_of_notMem replaced, rendered_key_of_notMem left, List.append_assoc,
          List.append_assoc, ← ih]
        refine replaceAll_append nonempty fun before after split => ?_
        by_contra early
        -- the key would begin at the end of the other one
        have shared := ((distinct.framed name nameListed).overlap (distinct.framed key listed)
          (fun eq => same (String.toList_injective eq).symm) split (by omega)).2
        exact alone key listed (Ne.symm same) (distinct.below_rendered listed rest below [sign] _
          (List.cons_ne_nil sign []) (distinct.framed key listed).eq_cons shared)

/-- What holds of a text that follows settled pieces, and is kept by every pass, still holds of what has become
of it when keys have been replaced in the pieces. -/
theorem substitute_rendered (distinct : Distinct sign value keys) (settled : Settled keys tail pieces)
    (Holds : List Char → Prop) (order done : List String) (new : ∀ key ∈ order, key ∉ done) (once : order.Nodup)
    (steps : ∀ key ∈ order, key ∈ keys ∧ ∀ text, Holds text →
      Below key.toList text tail ∧ Holds (replaceAll key.toList (value key).toList text))
    (holds : Holds text) :
    ∃ after, Holds after ∧ substitute value order (rendered value done pieces ++ text) =
      rendered value (order.reverse ++ done) pieces ++ after := by
  induction order generalizing done text with
  | nil => exact ⟨text, holds, rfl⟩
  | cons key order ih =>
    obtain ⟨notLater, once⟩ := List.nodup_cons.mp once
    obtain ⟨listed, step⟩ := steps key (List.mem_cons_self ..)
    have next : ∀ other ∈ order, other ∉ key :: done := by
      intro other there
      rw [List.mem_cons, not_or]
      exact ⟨fun eq => notLater (eq ▸ there), new other (List.mem_cons_of_mem key there)⟩
    obtain ⟨after, afterHolds, came⟩ := ih (key :: done) next once
      (fun other there => steps other (List.mem_cons_of_mem key there)) (step text holds).2
    refine ⟨after, afterHolds, ?_⟩
    rw [substitute, List.foldl_cons,
      distinct.replaceAll_rendered listed (new key (List.mem_cons_self ..)) settled (step text holds).1,
      ← substitute, came, List.reverse_cons, List.append_assoc, List.singleton_append]

/-- **In a clear text all the keys are replaced at once**, in whichever order. -/
theorem substitute_perm (distinct : Distinct sign value keys) (settled : Settled keys [] pieces)
    (perm : keys.Perm order) : substitute value order (spelled pieces) = rendered value keys pieces := by
  obtain ⟨after, rfl, came⟩ := distinct.substitute_rendered settled (· = []) order []
    (fun _ _ => List.not_mem_nil) (perm.nodup distinct.once)
    (fun key there => by
      have listed := perm.mem_iff.mpr there
      refine ⟨listed, ?_⟩
      rintro text rfl
      exact ⟨Below.refl _ _, replaceAll_nil (distinct.framed key listed).ne_nil⟩) rfl
  rw [rendered_nil, List.append_nil, List.append_nil, List.append_nil] at came
  rw [came, rendered_congr settled fun key _ => ?_]
  rw [List.mem_reverse, perm.mem_iff]

/-- Where the first pass leaves a value after a part of the tail in which no key is, both stay to the end. -/
theorem substitute_torn (distinct : Distinct sign value keys) (settled : Settled keys tail pieces)
    (before : List Char) {first own : String} {rest : List Char} (perm : keys.Perm (first :: order))
    (listed : own ∈ keys) (within : before <+: tail)
    (absent : ∀ key ∈ keys, ¬ key.toList <:+: before)
    (pass : replaceAll first.toList (value first).toList tail = before ++ (value own).toList ++ rest) :
    ∃ after, substitute value (first :: order) (spelled pieces ++ tail) =
      rendered value keys pieces ++ (before ++ (value own).toList ++ after) := by
  obtain ⟨notLater, once⟩ := List.nodup_cons.mp (perm.nodup distinct.once)
  have firstListed : first ∈ keys := perm.mem_iff.mpr (List.mem_cons_self ..)
  obtain ⟨after, ⟨last, rfl⟩, came⟩ := distinct.substitute_rendered settled
    (fun text => ∃ rest, text = before ++ (value own).toList ++ rest) order [first]
    (fun key there => by
      rw [List.mem_singleton]
      exact fun eq => notLater (eq ▸ there)) once
    (fun key there => by
      have keyListed := perm.mem_iff.mpr (List.mem_cons_of_mem first there)
      have apart := distinct.apart key keyListed own listed
      refine ⟨keyListed, ?_⟩
      rintro text ⟨rest, rfl⟩
      exact ⟨apart.below within rest, _, apart.replaceAll_append (distinct.framed key keyListed).ne_nil
        (absent key keyListed) _ rest⟩)
    ⟨rest, pass⟩
  refine ⟨last, ?_⟩
  rw [substitute, List.foldl_cons, ← rendered_nil value,
    distinct.replaceAll_rendered firstListed List.not_mem_nil settled (Below.refl _ _), ← substitute, came,
    rendered_congr settled fun key _ => ?_]
  rw [perm.mem_iff, List.mem_append, List.mem_reverse, List.mem_singleton, List.mem_cons, or_comm]

/-- A text that is torn after settled pieces comes out differently in two orders. -/
theorem exists_substitute_ne (distinct : Distinct sign value keys) (settled : Settled keys tail pieces)
    (torn : Torn keys tail) :
    ∃ one other, keys.Perm one ∧ keys.Perm other ∧
      substitute value one (spelled pieces ++ tail) ≠ substitute value other (spelled pieces ++ tail) := by
  obtain @⟨name, other, rest, listed, otherListed, different, shared⟩ := torn
  have namePerm := List.perm_cons_erase listed
  have otherPerm := List.perm_cons_erase otherListed
  refine ⟨_, _, namePerm, otherPerm, fun same => ?_⟩
  have nonempty (key : String) (there : key ∈ keys) : key.toList ≠ [] := (distinct.framed key there).ne_nil
  have framed := distinct.framed name listed
  have otherFramed := distinct.framed other otherListed
  -- where the first key is replaced first, its value comes after the pieces
  obtain ⟨after, first⟩ := distinct.substitute_torn settled [] namePerm listed List.nil_prefix
    (fun key there inside => nonempty key there (List.infix_nil.mp inside))
    (replaceAll_key (nonempty name listed))
  -- where the second one is, the sign and the name of the first do
  obtain ⟨inner, plain, eq⟩ := distinct.framed name listed
  obtain ⟨last, rfl⟩ := shared
  have pass := framed.replaceAll_shared otherFramed (fun eq => different (String.toList_injective eq)) eq
    (value other).toList last
  obtain ⟨later, second⟩ := distinct.substitute_torn settled (sign :: inner) otherPerm otherListed
    ⟨sign :: (other.toList.tail ++ last), by rw [eq]; simp⟩
    (fun key there => (distinct.framed key there).not_isInfix plain) pass
  rw [first, second, List.append_cancel_left_eq, List.nil_append, List.append_assoc, List.cons_append] at same
  exact (distinct.apart name listed name listed).append_ne_cons framed _ _ same

/-- **The order of keys is of no account for the clear texts, and for no others.** -/
theorem substitute_perm_iff (distinct : Distinct sign value keys) (text : List Char) :
    (∀ order, keys.Perm order → substitute value order text = substitute value keys text) ↔
      Clear keys text := by
  constructor
  · intro same
    obtain ⟨pieces, tail, rfl, settled, rfl | torn⟩ :=
      exists_settled (fun key there => (distinct.framed key there).ne_nil) text
    · exact ⟨pieces, (List.append_nil _).symm, settled⟩
    · obtain ⟨one, other, perm, otherPerm, differ⟩ := distinct.exists_substitute_ne settled torn
      exact absurd ((same one perm).trans (same other otherPerm).symm) differ
  · rintro ⟨pieces, rfl, settled⟩ order perm
    rw [distinct.substitute_perm settled perm, distinct.substitute_perm settled (List.Perm.refl keys)]

end Distinct

end CodeJudge.Substitution
