import CodeJudge.Json.Decoder
import CodeJudge.Proofs.Json.Tree

/-!
# Values decoded

What decoders make of the trees of written values, and what trees a record is decoded from at all.

A record is decoded from a closed object or a closed array and from nothing else (`Record.decode_iff`).
What it is read as is settled field by field. Two records without a common field read the same object
beside each other, each passing over the fields of the other as over names it does not know
(`Record.reads_also`), so it does not matter in what order members stand or what other members stand
between them: a field is read from the one member that names it, or is absent (`Record.reads_field`).
From an array the first field takes the first item and the others take the rest
(`Record.lists_also`).
-/

namespace CodeJudge.Json

/-! ## Plain values -/

/-- A number that is rendered is a whole number to a reader. -/
theorem integer?_render (n : Int) : integer? (Decimal.render n) = some n := by
  rw [← Decimal.readInt?_render n]
  obtain ⟨first, rest, split, isDigit, zero, -⟩ := Decimal.digits_eq_cons n.natAbs
  unfold integer?
  by_cases negative : n < 0
  · have shape : Decimal.render n = '-' :: first :: rest := by
      rw [Decimal.render, if_pos negative, split]
    rw [shape]
    -- a rendered number has no plus, and no sign before a zero
    split
    · rename_i same
      cases same
      have none_ := (zero rfl).1
      omega
    · rename_i same
      cases same
    · rfl
  · have shape : Decimal.render n = first :: rest := by
      rw [Decimal.render, if_neg negative, split]
    rw [shape]
    split
    · rename_i same
      exact absurd (List.cons.inj same).1 isDigit.unsigned.1
    · rename_i same
      exact absurd (List.cons.inj same).1 isDigit.unsigned.2
    · rfl

theorem integer_tree {bounds : Decimal.Bounds} {n : Int} (least : bounds.least ≤ n)
    (greatest : n ≤ bounds.greatest) : integer bounds (Value.int n).tree = .ok n := by
  rw [Value.tree, integer, integer?_render, Option.bind_some, Decimal.Bounds.admit?_of_mem least greatest]

theorem int64_tree (n : Int64) : int64 (Value.int n.toInt).tree = .ok n := by
  have least := n.le_toInt
  have greatest := n.toInt_lt
  have read : integer Decimal.int64 (Value.int n.toInt).tree = .ok n.toInt :=
    integer_tree (by show (-9223372036854775808 : Int) ≤ _; omega)
      (by show _ ≤ (9223372036854775807 : Int); omega)
  rw [int64, read]
  show Except.ok (Int64.ofInt n.toInt) = _
  rw [Int64.ofInt_toInt]

theorem int32_tree (n : Int32) : int32 (Value.int n.toInt).tree = .ok n := by
  have least := n.le_toInt
  have greatest := n.toInt_lt
  have read : integer Decimal.int32 (Value.int n.toInt).tree = .ok n.toInt :=
    integer_tree (by show (-2147483648 : Int) ≤ _; omega) (by show _ ≤ (2147483647 : Int); omega)
  rw [int32, read]
  show Except.ok (Int32.ofInt n.toInt) = _
  rw [Int32.ofInt_toInt]

theorem text_tree (content : String) : text (Value.string content).tree = .ok content := rfl

/-- What is written item by item is read item by item. -/
theorem list_tree {α : Type} {decode : Decoder α} {write : α → Value}
    (reads : ∀ value, decode (write value).tree = .ok value) (values : List α) :
    list decode (Value.array (values.map write)).tree = .ok values := by
  have items : items decode (itemTrees (values.map write)) = .ok values := by
    induction values with
    | nil => rfl
    | cons first rest ih =>
      rw [List.map_cons, itemTrees, items, reads, ih]
      rfl
  rw [Value.tree, list, items]
  rfl

theorem list_text_tree (texts : List String) : list text (Value.strings texts).tree = .ok texts :=
  list_tree text_tree texts

/-! ## Records -/

/-- The members of an object that have a certain name. -/
def membersNamed (name : String) (members : List (Option String × Tree)) : List (Option String × Tree) :=
  members.filter fun member => member.1 == some name

/-- **What a field is read as from the members of an object.** -/
inductive Field.Given {α : Type} (field : Field α) (members : List (Option String × Tree)) (value : α) :
    Prop
  /-- One member names the field. -/
  | once (tree : Tree) (only : membersNamed field.name members = [(some field.name, tree)])
    (decodes : field.decode tree = .ok value)
  /-- No member names the field. -/
  | absent (unnamed : membersNamed field.name members = []) (taken : field.absent = some value)

namespace Record

variable {σ τ α β : Type} {record : Record σ α} {left : Record σ α} {right : Record τ β}

/-- What a record is read as from the members of an object. -/
def Reads (record : Record σ α) (members : List (Option String × Tree)) (value : α) : Prop :=
  ∃ state, record.members record.blank members = .ok state ∧ record.finish false state = .ok value

/-- What a record is read as from the items of an array. -/
def Lists (record : Record σ α) (trees : List Tree) (value : α) : Prop :=
  ∃ state, record.places record.blank record.names trees = .ok state ∧ record.finish true state = .ok value

/-- **A record is decoded from a closed object or a closed array.** -/
theorem decode_iff {root : Tree} {value : α} : record.decode root = .ok value ↔
    (∃ members, root = .object members true ∧ record.Reads members value) ∨
      ∃ trees, root = .array trees true ∧ record.Lists trees value := by
  cases root with
  | object members closed =>
    rw [decode, bind_eq_ok]
    cases closed with
    | false => simp [throw, throwThe, MonadExceptOf.throw]
    | true => simp [Reads]
  | array trees closed =>
    rw [decode, bind_eq_ok]
    cases closed with
    | false => simp [throw, throwThe, MonadExceptOf.throw]
    | true => simp [Lists]
  | _ => simp [decode, refuse]

/-! ### Objects -/

theorem members_known (state : σ) {name : String} (tree : Tree) (rest : List (Option String × Tree))
    (known : name ∈ record.names) : record.members state ((some name, tree) :: rest) =
      (record.put name tree state).bind fun state => record.members state rest := by
  rw [members, if_pos (List.contains_iff_mem.mpr known)]
  rfl

theorem members_unknown (state : σ) {name : String} (tree : Tree) (rest : List (Option String × Tree))
    (unknown : name ∉ record.names) :
    record.members state ((some name, tree) :: rest) = record.members state rest := by
  rw [members, if_neg (fun known => unknown (List.contains_iff_mem.mp known))]

/-- An object that is read has a name for each of its members. -/
theorem Reads.labelled {members : List (Option String × Tree)} {value : α}
    (reads : record.Reads members value) : ∀ member ∈ members, member.1 ≠ none := by
  obtain ⟨state, read, -⟩ := reads
  generalize record.blank = start at read
  induction members generalizing start with
  | nil => exact nofun
  | cons member rest ih =>
    obtain ⟨label, tree⟩ := member
    cases label with
    | none => cases read
    | some name =>
      refine List.forall_mem_cons.mpr ⟨nofun, ?_⟩
      by_cases known : name ∈ record.names
      · rw [members_known _ _ _ known] at read
        cases put : record.put name tree start with
        | error fault =>
          rw [put] at read
          cases read
        | ok next =>
          rw [put] at read
          exact ih next read
      · rw [members_unknown _ _ _ known] at read
        exact ih start read

theorem put_left {name : String} (own : name ∈ left.names) (tree : Tree) (state : σ) (other : τ) :
    (left.also right).put name tree (state, other) =
      (left.put name tree state).map fun read => (read, other) := by
  simp only [also, List.contains_iff_mem.mpr own, ↓reduceIte]
  cases left.put name tree state <;> rfl

theorem put_right {name : String} (foreign : name ∉ left.names) (tree : Tree) (state : σ) (other : τ) :
    (left.also right).put name tree (state, other) =
      (right.put name tree other).map fun read => (state, read) := by
  have unknown : left.names.contains name = false := by
    rw [Bool.eq_false_iff]
    exact fun known => foreign (List.contains_iff_mem.mp known)
  simp only [also, unknown, Bool.false_eq_true, ↓reduceIte]
  cases right.put name tree other <;> rfl

/-- Each of two records without a common field reads an object as if it were alone. -/
theorem members_also (apart : ∀ name ∈ right.names, name ∉ left.names)
    {members : List (Option String × Tree)} {state next : σ} {other last : τ} :
    (left.also right).members (state, other) members = .ok (next, last) ↔
      left.members state members = .ok next ∧ right.members other members = .ok last := by
  induction members generalizing state other with
  | nil => simp [Record.members]
  | cons member rest ih =>
    obtain ⟨label, tree⟩ := member
    cases label with
    | none => simp [Record.members]
    | some name =>
      -- the member is one of the first record, of the second, or of neither
      by_cases own : name ∈ left.names
      · have foreign : name ∉ right.names := fun known => apart name known own
        rw [members_known _ _ _ (List.mem_append_left _ own), members_known _ _ _ own,
          members_unknown _ _ _ foreign, put_left own]
        cases left.put name tree state with
        | error fault => exact ⟨nofun, fun ⟨failed, _⟩ => nomatch failed⟩
        | ok read => exact ih
      · have passed : left.members state ((some name, tree) :: rest) = left.members state rest :=
          members_unknown _ _ _ own
        rw [passed]
        by_cases known : name ∈ right.names
        · rw [members_known _ _ _ (List.mem_append_right _ known), members_known _ _ _ known, put_right own]
          cases right.put name tree other with
          | error fault => exact ⟨nofun, fun ⟨_, failed⟩ => nomatch failed⟩
          | ok read => exact ih
        · have unknown : name ∉ (left.also right).names :=
            fun mem => (List.mem_append.mp mem).elim own known
          rw [members_unknown _ _ _ unknown, members_unknown _ _ _ known]
          exact ih

theorem finish_also {short : Bool} {state : σ} {other : τ} {first : α} {second : β} :
    (left.also right).finish short (state, other) = .ok (first, second) ↔
      left.finish short state = .ok first ∧ right.finish short other = .ok second := by
  simp only [also, bind_eq_ok]
  constructor
  · rintro ⟨head, finishedLeft, tail, finishedRight, same⟩
    cases same
    exact ⟨finishedLeft, finishedRight⟩
  · rintro ⟨finishedLeft, finishedRight⟩
    exact ⟨first, finishedLeft, second, finishedRight, rfl⟩

/-- **Two records without a common field read an object beside each other.** -/
theorem reads_also (apart : ∀ name ∈ right.names, name ∉ left.names)
    {members : List (Option String × Tree)} {first : α} {second : β} :
    (left.also right).Reads members (first, second) ↔
      left.Reads members first ∧ right.Reads members second := by
  constructor
  · rintro ⟨⟨state, other⟩, read, finished⟩
    obtain ⟨readLeft, readRight⟩ := (members_also apart).mp read
    obtain ⟨finishedLeft, finishedRight⟩ := finish_also.mp finished
    exact ⟨⟨state, readLeft, finishedLeft⟩, other, readRight, finishedRight⟩
  · rintro ⟨⟨state, readLeft, finishedLeft⟩, other, readRight, finishedRight⟩
    exact ⟨(state, other), (members_also apart).mpr ⟨readLeft, readRight⟩,
      finish_also.mpr ⟨finishedLeft, finishedRight⟩⟩

/-- What is made of a record is finished where the record is. -/
theorem finish_map {short : Bool} {state : σ} {make : α → β} {value : β} :
    (record.map make).finish short state = .ok value ↔
      ∃ first, record.finish short state = .ok first ∧ make first = value := by
  simp only [map]
  cases record.finish short state with
  | error fault => exact ⟨nofun, fun ⟨_, failed, _⟩ => nomatch failed⟩
  | ok first => simp [Functor.map, Except.map]

/-- What is made of a record is read from an object where the record is. -/
theorem reads_map {members : List (Option String × Tree)} {make : α → β} {value : β} :
    (record.map make).Reads members value ↔ ∃ first, record.Reads members first ∧ make first = value := by
  have same : ∀ state, (record.map make).members state members = record.members state members := by
    induction members with
    | nil => exact fun _ => rfl
    | cons member rest ih =>
      obtain ⟨label, tree⟩ := member
      cases label with
      | none => exact fun _ => rfl
      | some name =>
        intro state
        rw [Record.members, Record.members]
        simp only [ih]
        rfl
  simp only [Reads, same, finish_map]
  constructor
  · rintro ⟨state, read, first, finished, made⟩
    exact ⟨first, ⟨state, read, finished⟩, made⟩
  · rintro ⟨first, ⟨state, read, finished⟩, made⟩
    exact ⟨state, read, first, finished, made⟩

section Fields

variable {field : Field α} {members : List (Option String × Tree)}

/-- A field that has been read is kept as long as no member names it again. -/
theorem members_read {value : α} {state : Option α} (labelled : ∀ member ∈ members, member.1 ≠ none) :
    field.record.members (some value) members = .ok state ↔
      membersNamed field.name members = [] ∧ state = some value := by
  induction members with
  | nil => simp [Record.members, membersNamed, eq_comm]
  | cons member rest ih =>
    have labels := (List.forall_mem_cons.mp labelled).2
    obtain ⟨label, tree⟩ := member
    cases label with
    | none => exact absurd rfl (labelled _ List.mem_cons_self)
    | some name =>
      by_cases own : name = field.name
      · subst own
        rw [members_known _ _ _ (List.mem_singleton_self _)]
        simp [Field.record, membersNamed, Except.bind]
      · rw [members_unknown _ _ _ (fun known => own (List.mem_singleton.mp known)), ih labels]
        simp [membersNamed, own]

/-- A field that has not been read is read from the one member that names it, or left unread. -/
theorem members_unread {state : Option α} (labelled : ∀ member ∈ members, member.1 ≠ none) :
    field.record.members none members = .ok state ↔
      (membersNamed field.name members = [] ∧ state = none) ∨
        ∃ tree value, membersNamed field.name members = [(some field.name, tree)] ∧
          field.decode tree = .ok value ∧ state = some value := by
  induction members with
  | nil => simp [Record.members, membersNamed, eq_comm]
  | cons member rest ih =>
    have labels := (List.forall_mem_cons.mp labelled).2
    obtain ⟨label, tree⟩ := member
    cases label with
    | none => exact absurd rfl (labelled _ List.mem_cons_self)
    | some name =>
      by_cases own : name = field.name
      · subst own
        rw [members_known _ _ _ (List.mem_singleton_self _)]
        have named : membersNamed field.name ((some field.name, tree) :: rest) =
            (some field.name, tree) :: membersNamed field.name rest :=
          List.filter_cons_of_pos (beq_self_eq_true _)
        show ((some <$> field.decode tree) >>= fun read => field.record.members read rest) = _ ↔ _
        rw [bind_eq_ok, named]
        cases decoded : field.decode tree with
        | error fault => simp [Functor.map, Except.map, decoded]
        | ok value => simp [Functor.map, Except.map, members_read labels, decoded]
      · rw [members_unknown _ _ _ (fun known => own (List.mem_singleton.mp known)), ih labels]
        simp [membersNamed, own]

/-- **A field is read from the one member that names it, or is absent.** -/
theorem reads_field {value : α} (labelled : ∀ member ∈ members, member.1 ≠ none) :
    field.record.Reads members value ↔ field.Given members value := by
  constructor
  · rintro ⟨state, read, finished⟩
    rcases (members_unread labelled).mp read with ⟨unnamed, rfl⟩ | ⟨tree, given, only, decodes, rfl⟩
    · cases taken : field.absent with
      | none =>
        simp only [Field.record, taken, Bool.false_eq_true, ↓reduceIte, reduceCtorEq] at finished
      | some default =>
        simp only [Field.record, taken, Bool.false_eq_true, ↓reduceIte, Except.ok.injEq] at finished
        exact .absent unnamed (finished ▸ taken)
    · cases finished
      exact .once tree only decodes
  · rintro (⟨tree, only, decodes⟩ | ⟨unnamed, taken⟩)
    · exact ⟨some value, (members_unread labelled).mpr (.inr ⟨tree, value, only, decodes, rfl⟩), rfl⟩
    · refine ⟨none, (members_unread labelled).mpr (.inl ⟨unnamed, rfl⟩), ?_⟩
      simp only [Field.record, Bool.false_eq_true, ↓reduceIte, taken]

end Fields

/-! ### Arrays -/

/-- What is made of a record is read from an array where the record is. -/
theorem lists_map {trees : List Tree} {make : α → β} {value : β} :
    (record.map make).Lists trees value ↔ ∃ first, record.Lists trees first ∧ make first = value := by
  have same : ∀ names state, (record.map make).places state names trees = record.places state names trees := by
    induction trees with
    | nil => exact fun _ _ => by rw [places, places]
    | cons tree rest ih =>
      intro names state
      cases names with
      | nil => rfl
      | cons name names =>
        rw [places, places]
        simp only [ih]
        rfl
  simp only [Lists, same, finish_map]
  constructor
  · rintro ⟨state, read, first, finished, made⟩
    exact ⟨first, ⟨state, read, finished⟩, made⟩
  · rintro ⟨first, ⟨state, read, finished⟩, made⟩
    exact ⟨state, read, first, finished, made⟩

/-- Items that stand for fields of the second record, and of none of the first, are read there. -/
theorem places_right {names : List String} {trees : List Tree} {state next : σ} {other last : τ}
    (foreign : ∀ name ∈ names, name ∉ left.names) :
    (left.also right).places (state, other) names trees = .ok (next, last) ↔
      next = state ∧ right.places other names trees = .ok last := by
  induction trees generalizing names other with
  | nil => simp [places, eq_comm]
  | cons tree rest ih =>
    cases names with
    | nil => simp [places]
    | cons name names =>
      obtain ⟨first, others⟩ := List.forall_mem_cons.mp foreign
      rw [places, places, put_right first]
      cases right.put name tree other with
      | error fault => exact ⟨nofun, fun ⟨_, failed⟩ => nomatch failed⟩
      | ok read => exact ih others

theorem lists_nil {value : α} : record.Lists [] value ↔ record.finish true record.blank = .ok value := by
  simp only [Lists, places, Except.ok.injEq, exists_eq_left']

/-- A field that no item stands for is cut off. -/
theorem finish_cut {field : Field α} {value : α} :
    field.record.finish true none = .ok value ↔ field.cut = some value := by
  simp only [Field.record, ↓reduceIte]
  cases field.cut <;> simp

/-- A field takes the only item of an array, or is cut off. -/
theorem lists_field {field : Field α} {trees : List Tree} {value : α} : field.record.Lists trees value ↔
    (∃ tree, trees = [tree] ∧ field.decode tree = .ok value) ∨ trees = [] ∧ field.cut = some value := by
  rcases trees with _ | ⟨tree, _ | ⟨surplus, rest⟩⟩
  · rw [lists_nil]
    show field.record.finish true none = _ ↔ _
    simp [finish_cut]
  · simp [Lists, places, Field.record, bind_eq_ok]
  · simp [Lists, places, Field.record, bind_eq_ok]

/-- **A field takes the first item of an array and the record behind it takes the rest.** -/
theorem lists_also {field : Field α} {trees : List Tree} {first : α} {second : β}
    (apart : ∀ name ∈ right.names, name ∉ [field.name]) :
    (field.record.also right).Lists trees (first, second) ↔
      (∃ tree rest, trees = tree :: rest ∧ field.decode tree = .ok first ∧ right.Lists rest second) ∨
        trees = [] ∧ field.cut = some first ∧ right.Lists [] second := by
  cases trees with
  | nil =>
    rw [lists_nil, lists_nil]
    show (field.record.also right).finish true (none, right.blank) = _ ↔ _
    simp [finish_also, finish_cut]
  | cons tree rest =>
    have start : (field.record.also right).places (none, right.blank) (field.name :: right.names)
        (tree :: rest) = (some <$> field.decode tree) >>= fun read =>
          (field.record.also right).places (read, right.blank) right.names rest := by
      rw [places, put_left (List.mem_singleton_self _)]
      show ((some <$> field.decode tree).map _ >>= _) = _
      cases field.decode tree <;> rfl
    constructor
    · rintro ⟨⟨state, other⟩, read, finished⟩
      obtain ⟨part, decodes, others⟩ := bind_eq_ok.mp (start.symm.trans read)
      obtain ⟨rfl, listed⟩ := (places_right apart).mp others
      obtain ⟨finishedFirst, finishedSecond⟩ := finish_also.mp finished
      cases decoded : field.decode tree with
      | error fault =>
        rw [decoded] at decodes
        cases decodes
      | ok value =>
        rw [decoded] at decodes
        cases decodes
        cases finishedFirst
        exact .inl ⟨tree, rest, rfl, decoded, other, listed, finishedSecond⟩
    · rintro (⟨_, _, same, decoded, other, listed, finished⟩ | ⟨same, _⟩)
      · cases same
        refine ⟨(some first, other), ?_, finish_also.mpr ⟨rfl, finished⟩⟩
        refine start.trans ?_
        rw [decoded]
        exact (places_right apart).mpr ⟨rfl, listed⟩
      · cases same

end Record

end CodeJudge.Json
