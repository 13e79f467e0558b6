import CodeJudge.Files.Tree
import CodeJudge.Proofs.Actions

/-!
# Places in a file tree

A tree has no links from one directory into another, so a path that leads anywhere leads to the same place
in every tree (`Path.place`, `FileTree.resolve_place`). A name that is one plain segment stands directly in the
directory that it is joined to (`Path.place_join`).

What an operation does is told by the bytes at every place. Opening and writing a file touch the place that
the path names and no other (`FileTree.Sound.openForWriting`, `FileTree.Sound.write`), because no file of a
sound tree has two names.
-/

namespace CodeJudge

namespace Path

/-- Where segments lead from a place, if they lead anywhere. -/
def placeFrom (here : List String) : List String → List String
  | [] => here
  | segment :: rest =>
    if segment = "" || segment = "." then placeFrom here rest
    else if segment = ".." then placeFrom here.dropLast rest
    else placeFrom (here ++ [segment]) rest

/-- **The place that a path names.** -/
def place (path : String) : List String := placeFrom [] (segments path)

/-- **A name that is one segment**, and none that leads back or nowhere. -/
structure Plain (name : String) : Prop where
  whole : '/' ∉ name.toList
  named : name ∉ ["", ".", ".."]

theorem placeFrom_append (here front rest : List String) :
    placeFrom here (front ++ rest) = placeFrom (placeFrom here front) rest := by
  induction front generalizing here with
  | nil => rfl
  | cons segment front ih =>
    rw [List.cons_append, placeFrom, placeFrom]
    split
    · exact ih here
    · split
      · exact ih _
      · exact ih _

theorem segmentsFrom_slash (held front rest : List Char) :
    segmentsFrom held (front ++ '/' :: rest) = segmentsFrom held front ++ segmentsFrom [] rest := by
  fun_induction segmentsFrom held front with
  | case1 held => rfl
  | case2 held front ih => rw [List.cons_append, segmentsFrom, ih, List.cons_append]
  | case3 held c front other ih =>
    rw [List.cons_append, segmentsFrom, ih]
    exact other

theorem segmentsFrom_whole {text : List Char} (whole : '/' ∉ text) (held : List Char) :
    segmentsFrom held text = [String.ofList (held.reverse ++ text)] := by
  induction text generalizing held with
  | nil => rw [segmentsFrom, List.append_nil]
  | cons c rest ih =>
    rw [List.mem_cons, not_or] at whole
    rw [segmentsFrom, ih whole.2, List.reverse_cons, List.append_assoc, List.singleton_append]
    exact fun same => whole.1 same.symm

theorem Plain.segments {name : String} (plain : Plain name) : segments name = [name] := by
  rw [Path.segments, segmentsFrom_whole plain.whole, List.reverse_nil, List.nil_append, String.ofList_toList]

theorem Plain.placeFrom {name : String} (plain : Plain name) (here : List String) :
    placeFrom here [name] = here ++ [name] := by
  have named := plain.named
  simp only [List.mem_cons, List.not_mem_nil, or_false, not_or] at named
  simp [Path.placeFrom, named]

/-- **A plain name stands directly in the directory that it is joined to.** -/
theorem place_join {name : String} (plain : Plain name) (base : String) :
    place (join base name) = place base ++ [name] := by
  have relative : isAbsolute name = false := by
    rw [isAbsolute]
    split
    · rename_i rest opens
      exact absurd (opens ▸ List.mem_cons_self) plain.whole
    · rfl
  have behind (front : List Char) : placeFrom [] (segmentsFrom [] (front ++ '/' :: name.toList)) =
      placeFrom [] (segmentsFrom [] front) ++ [name] := by
    have own : segmentsFrom [] name.toList = [name] := plain.segments
    rw [segmentsFrom_slash, placeFrom_append, own, plain.placeFrom]
  rw [join, relative, place, place, Path.segments, Path.segments]
  simp only [Bool.false_eq_true, ↓reduceIte, Bool.or_eq_true, List.isEmpty_iff, decide_eq_true_eq]
  split
  · rename_i ends
    rw [String.toList_append]
    rcases ends with blank | ends
    · rw [blank, List.nil_append]
      exact plain.segments ▸ plain.placeFrom []
    · -- the slash at the end of the base makes a segment that leads nowhere
      obtain ⟨front, same⟩ := List.getLast?_eq_some_iff.mp ends
      rw [same, List.append_assoc, List.singleton_append, behind, segmentsFrom_slash, placeFrom_append]
      rfl
  · rw [String.toList_append, String.toList_append, List.append_assoc]
    exact behind base.toList

end Path

namespace FileTree

variable {tree next : FileTree} {here place other target : List String} {path : String} {number : Nat}

/-! ## Resolving -/

theorem walk_place {asDirectory asked : Bool} {segments : List String}
    (walked : tree.walk here asDirectory segments = .ok (target, asked)) :
    target = Path.placeFrom here segments := by
  induction segments generalizing here asDirectory with
  | nil =>
    cases walked
    rfl
  | cons segment rest ih =>
    rw [walk] at walked
    rw [Path.placeFrom]
    split at walked
    · cases walked
    · cases walked
    · split at walked
      · rename_i skipped
        rw [if_pos skipped]
        exact ih walked
      · rename_i skipped
        rw [if_neg skipped]
        split at walked
        · rename_i back
          rw [if_pos back]
          exact ih walked
        · rename_i back
          rw [if_neg back]
          exact ih walked

/-- **A path that leads anywhere leads to the place that it names.** -/
theorem resolve_place {asked : Bool} (resolved : tree.resolve [] path = .ok (target, asked)) :
    target = Path.place path := by
  rw [resolve] at resolved
  split at resolved
  · cases resolved
  · split at resolved
    · cases resolved
    · rw [Path.place]
      split at resolved
      · rename_i rest rooted
        rw [rooted, walk_place resolved]
        rfl
      · exact walk_place resolved

theorem find_place {node : Node} (found : tree.find [] path = .ok (target, node)) :
    target = Path.place path := by
  rw [find] at found
  obtain ⟨⟨resolved, asked⟩, came, stands⟩ := bind_eq_ok.mp found
  have same := resolve_place came
  dsimp only at stands
  split at stands
  · cases stands
  · split at stands
    · cases stands
    · cases stands
      exact same
  · cases stands
    exact same

/-! ## Nodes and bytes -/

/-- The bytes of the file at a place, if there is one. -/
def bytesAt? (tree : FileTree) (place : List String) : Option ByteArray :=
  match tree.node? place with
  | some (.file number) => (tree.content? number).map (·.bytes)
  | _ => none

/-- **A tree in which no file has two names.** -/
structure Sound (tree : FileTree) : Prop where
  /-- Contents are numbered in the order in which they were made. -/
  numbered : ∀ {place number}, tree.node? place = some (.file number) → number < tree.next
  single : ∀ {place other number}, tree.node? place = some (.file number) →
    tree.node? other = some (.file number) → place = other

theorem node?_empty : ({} : FileTree).node? place ≠ some (.file number) := by
  rw [node?, List.lookup_cons]
  split
  · exact nofun
  · exact nofun

theorem sound_empty : Sound {} := ⟨fun file => absurd file node?_empty, fun file => absurd file node?_empty⟩

section

variable {α β : Type} [BEq α] [LawfulBEq α]

theorem lookup_cons_of_eq {key first : α} (same : key = first) (value : β) (rest : List (α × β)) :
    ((first, value) :: rest).lookup key = some value := by
  rw [List.lookup_cons, beq_iff_eq.mpr same]

theorem lookup_cons_of_ne {key first : α} (other : key ≠ first) (value : β) (rest : List (α × β)) :
    ((first, value) :: rest).lookup key = rest.lookup key := by
  rw [List.lookup_cons, beq_eq_false_iff_ne.mpr other]

/-- What is looked up among the entries that are kept. -/
theorem lookup_filter (keeps : α → Bool) (entries : List (α × β)) (key : α) :
    (entries.filter fun entry => keeps entry.1).lookup key =
      if keeps key then entries.lookup key else none := by
  induction entries with
  | nil => rw [List.filter_nil, List.lookup_nil, ite_self]
  | cons entry rest ih =>
    obtain ⟨first, value⟩ := entry
    by_cases same : key = first
    · subst same
      cases kept : keeps key with
      | true =>
        rw [List.filter_cons_of_pos (by simpa using kept), lookup_cons_of_eq rfl, lookup_cons_of_eq rfl,
          if_pos rfl]
      | false =>
        rw [kept] at ih
        rw [List.filter_cons_of_neg (by simp [kept]), ih]
        rfl
    · rw [lookup_cons_of_ne same, ← ih]
      cases kept : keeps first with
      | true => rw [List.filter_cons_of_pos (by simpa using kept), lookup_cons_of_ne same]
      | false => rw [List.filter_cons_of_neg (by simp [kept])]

end

theorem node?_append (tree : FileTree) (target : List String) (node : Node) (place : List String) :
    node? { tree with nodes := tree.nodes ++ [(target, node)] } place =
      (tree.node? place).or (if place = target then some node else none) := by
  rw [node?, node?, List.lookup_append]
  congr 1
  split
  · rename_i same
    rw [lookup_cons_of_eq same]
  · rename_i other
    rw [lookup_cons_of_ne other, List.lookup_nil]

theorem node?_removeAll (tree : FileTree) (target place : List String) :
    (tree.removeAll target).node? place = if target.isPrefixOf place then none else tree.node? place := by
  rw [node?, removeAll, lookup_filter fun place => !target.isPrefixOf place]
  cases target.isPrefixOf place <;> rfl

theorem content?_setContent (tree : FileTree) (number : Nat) (content : FileContent) (other : Nat) :
    (tree.setContent number content).content? other =
      if other = number then some content else tree.content? other := by
  rw [content?, setContent]
  split
  · rename_i same
    exact lookup_cons_of_eq same _ _
  · rename_i different
    rw [lookup_cons_of_ne different, lookup_filter fun key => key != number, if_pos (by simpa using different)]
    rfl

/-- Writing to a file changes the bytes at the place that has it, and at no other. -/
theorem bytesAt?_setContent (tree : FileTree) (number : Nat) (content : FileContent) (place : List String) :
    (tree.setContent number content).bytesAt? place =
      if tree.node? place = some (.file number) then some content.bytes else tree.bytesAt? place := by
  have same : (tree.setContent number content).node? place = tree.node? place := rfl
  rw [bytesAt?, bytesAt?, same]
  cases node : tree.node? place with
  | none => rfl
  | some stands =>
    cases stands with
    | directory => rfl
    | file other =>
      simp only [content?_setContent, Option.some.injEq, Node.file.injEq]
      split <;> rfl

theorem Sound.setContent (sound : tree.Sound) (number : Nat) (content : FileContent) :
    (tree.setContent number content).Sound := ⟨sound.numbered, sound.single⟩

/-! ## Writing -/

/-- **A tree after another**, in which no name has come to an old file. -/
structure Ages (tree next : FileTree) : Prop where
  later : tree.next ≤ next.next
  names : ∀ {place number}, next.node? place = some (.file number) →
    tree.node? place = some (.file number) ∨ tree.next ≤ number

/-- **A sound tree that has come of another by writing at one place.** -/
structure Touched (tree next : FileTree) (place : List String) : Prop where
  sound : next.Sound
  ages : tree.Ages next
  elsewhere : ∀ {other}, other ≠ place → next.bytesAt? other = tree.bytesAt? other

theorem Ages.refl (tree : FileTree) : tree.Ages tree := ⟨Nat.le_refl _, .inl⟩

theorem Ages.trans {last : FileTree} (first : tree.Ages next) (second : next.Ages last) : tree.Ages last where
  later := Nat.le_trans first.later second.later
  names file := by
    rcases second.names file with file | new
    · exact first.names file
    · exact .inr (Nat.le_trans first.later new)

/-- Writing through a number touches the only place that has it. -/
theorem Sound.touched_setContent (sound : tree.Sound) (file : tree.node? place = some (.file number))
    (content : FileContent) : tree.Touched (tree.setContent number content) place where
  sound := sound.setContent number content
  ages := ⟨Nat.le_refl _, .inl⟩
  elsewhere := by
    intro other different
    rw [bytesAt?_setContent, if_neg fun same => different (sound.single same file)]

/-- A file that is made is a new one. -/
theorem Sound.touched_new (sound : tree.Sound) (absent : tree.node? place = none) :
    let made : FileTree := { tree with
      nodes := tree.nodes ++ [(place, .file tree.next)]
      contents := (tree.next, ⟨.empty, false⟩) :: tree.contents
      next := tree.next + 1 }
    tree.Touched made place ∧ made.node? place = some (.file tree.next) ∧
      made.bytesAt? place = some .empty := by
  intro made
  have nodes (other : List String) : made.node? other =
      (tree.node? other).or (if other = place then some (.file tree.next) else none) :=
    node?_append tree place (.file tree.next) other
  have own : made.node? place = some (.file tree.next) := by rw [nodes, absent, if_pos rfl, Option.none_or]
  -- a file of the new tree is one of the old tree, or the new one
  have files {other : List String} {number : Nat} (file : made.node? other = some (.file number)) :
      tree.node? other = some (.file number) ∧ number < tree.next ∨ other = place ∧ number = tree.next := by
    rw [nodes] at file
    rcases Option.or_eq_some_iff.mp file with file | ⟨-, file⟩
    · exact .inl ⟨file, sound.numbered file⟩
    · split at file
      · rename_i same
        cases file
        exact .inr ⟨same, rfl⟩
      · cases file
  have contents {number : Nat} (old : number ≠ tree.next) : made.content? number = tree.content? number :=
    lookup_cons_of_ne old _ _
  have whole : made.Sound := by
    constructor
    · intro other number file
      show number < tree.next + 1
      rcases files file with ⟨-, old⟩ | ⟨-, rfl⟩ <;> omega
    · intro first second number file again
      rcases files file with ⟨here, old⟩ | ⟨rfl, rfl⟩
      · rcases files again with ⟨there, -⟩ | ⟨-, rfl⟩
        · exact sound.single here there
        · exact absurd old (Nat.lt_irrefl _)
      · rcases files again with ⟨-, old⟩ | ⟨rfl, -⟩
        · exact absurd old (Nat.lt_irrefl _)
        · rfl
  have ages : tree.Ages made := by
    refine ⟨Nat.le_succ _, fun file => ?_⟩
    rcases files file with ⟨old, -⟩ | ⟨-, rfl⟩
    · exact .inl old
    · exact .inr (Nat.le_refl _)
  have elsewhere {other : List String} (different : other ≠ place) :
      made.bytesAt? other = tree.bytesAt? other := by
    have same : made.node? other = tree.node? other := by rw [nodes, if_neg different, Option.or_none]
    rw [bytesAt?, bytesAt?, same]
    cases node : tree.node? other with
    | none => rfl
    | some stands =>
      cases stands with
      | directory => rfl
      | file number => simp only [contents (Nat.ne_of_lt (sound.numbered node))]
  refine ⟨⟨whole, ages, elsewhere⟩, own, ?_⟩
  rw [bytesAt?, own]
  have content : made.content? tree.next = some ⟨.empty, false⟩ := by
    show ((tree.next, _) :: tree.contents).lookup tree.next = _
    rw [lookup_cons_of_eq rfl]
  simp only [content, Option.map_some]

/-- **Opening a file** empties the one at the place that the path names, or makes it there. -/
theorem Sound.openForWriting (sound : tree.Sound)
    (opened : tree.openForWriting [] path true = .ok (next, number)) :
    tree.Touched next (Path.place path) ∧ next.node? (Path.place path) = some (.file number) ∧
      next.bytesAt? (Path.place path) = some .empty := by
  rw [FileTree.openForWriting] at opened
  obtain ⟨⟨target, asked⟩, resolved, came⟩ := bind_eq_ok.mp opened
  cases resolve_place resolved
  dsimp only at came
  split at came
  · cases came
  · rename_i old file
    split at came
    · cases came
    · cases came
      refine ⟨sound.touched_setContent file _, file, ?_⟩
      rw [if_pos rfl, bytesAt?_setContent, if_pos file]
  · rename_i absent
    split at came
    · cases came
    · split at came
      · cases came
        exact sound.touched_new absent
      · cases came
      · cases came

/-- **Writing a file** leaves the bytes at the place that the path names. -/
theorem Sound.write {bytes : ByteArray} (sound : tree.Sound) (written : tree.write [] path bytes = .ok next) :
    tree.Touched next (Path.place path) ∧ next.bytesAt? (Path.place path) = some bytes := by
  rw [FileTree.write] at written
  obtain ⟨⟨opened, number⟩, came, rest⟩ := bind_eq_ok.mp written
  cases rest
  obtain ⟨touched, file, -⟩ := sound.openForWriting came
  have filled := touched.sound.touched_setContent file
    { (opened.content? number).getD ⟨.empty, false⟩ with bytes }
  refine ⟨⟨filled.sound, touched.ages.trans filled.ages, fun different => ?_⟩, ?_⟩
  · rw [filled.elsewhere different, touched.elsewhere different]
  · rw [bytesAt?_setContent, if_pos file]

/-! ## Making and removing directories -/

/-- **Making a directory** touches no file. -/
theorem Sound.makeDirectory (sound : tree.Sound) (made : tree.makeDirectory [] path = .ok next) :
    next.Sound ∧ tree.Ages next ∧ ∀ place, next.bytesAt? place = tree.bytesAt? place := by
  rw [FileTree.makeDirectory] at made
  obtain ⟨⟨target, asked⟩, resolved, came⟩ := bind_eq_ok.mp made
  dsimp only at came
  split at came
  · cases came
  · rename_i absent
    split at came
    · cases came
      have nodes (place : List String) := node?_append tree target .directory place
      have files {place : List String} {number : Nat} :
          node? { tree with nodes := tree.nodes ++ [(target, .directory)] } place = some (.file number) ↔
            tree.node? place = some (.file number) := by
        rw [nodes, Option.or_eq_some_iff]
        constructor
        · rintro (file | ⟨-, file⟩)
          · exact file
          · split at file
            · cases file
            · cases file
        · exact .inl
      refine ⟨⟨fun file => sound.numbered (files.mp file), fun file again =>
        sound.single (files.mp file) (files.mp again)⟩, ⟨Nat.le_refl _, fun file => .inl (files.mp file)⟩,
        fun place => ?_⟩
      rw [bytesAt?, bytesAt?, nodes]
      cases tree.node? place with
      | some stands => rfl
      | none =>
        rw [Option.none_or]
        by_cases own : place = target
        · rw [if_pos own]
        · rw [if_neg own]
    · cases came
    · cases came

/-- **Removing what is at and below a place** touches no file elsewhere. -/
theorem Sound.removeAll (sound : tree.Sound) (target : List String) : (tree.removeAll target).Sound ∧
    tree.Ages (tree.removeAll target) ∧
      ∀ place, target.isPrefixOf place = false → (tree.removeAll target).bytesAt? place = tree.bytesAt? place := by
  have files {place : List String} {number : Nat}
      (file : (tree.removeAll target).node? place = some (.file number)) :
      tree.node? place = some (.file number) := by
    rw [node?_removeAll] at file
    split at file
    · cases file
    · exact file
  refine ⟨⟨fun file => sound.numbered (files file), fun file again => sound.single (files file) (files again)⟩,
    ⟨Nat.le_refl _, fun file => .inl (files file)⟩, fun place outside => ?_⟩
  rw [bytesAt?, bytesAt?, node?_removeAll, outside]
  rfl

end FileTree

end CodeJudge
