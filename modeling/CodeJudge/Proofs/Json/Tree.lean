import CodeJudge.Json.Decoder
import CodeJudge.Proofs.Actions
import CodeJudge.Proofs.Json.Token
import CodeJudge.Proofs.Text.Utf8

/-!
# Trees read back

The tokens of a value grow into its tree, whatever is open around it (`read_value`). With what is known
of tokens and of bytes, a decoder sees in the bytes of a written value the tree of the value and nothing
else (`decodeBytes_render`): what it makes of a message is settled on trees.
-/

namespace CodeJudge.Json

namespace Builder

/-- Reads tokens one after another. -/
def read (builder : Builder) (tokens : List Token) : Builder := tokens.foldl step builder

theorem read_cons (builder : Builder) (token : Token) (rest : List Token) :
    builder.read (token :: rest) = (builder.step token).read rest := rfl

theorem read_append (builder : Builder) (front back : List Token) :
    builder.read (front ++ back) = (builder.read front).read back := List.foldl_append

/-- Where a value may come, a token that does not close the array at hand begins one. -/
theorem step_value {stack : List Frame} {due : Due} (takes : due = .value ∨ due = .item) {token : Token}
    (opens : token ≠ .closeArray) : (growing stack due).step token = value stack token := by
  rcases takes with rfl | rfl
  · cases token <;> rfl
  · cases token with
    | closeArray => exact absurd rfl opens
    | _ => rfl

theorem step_openArray (stack : List Frame) {due : Due} (takes : due = .value ∨ due = .item) :
    (growing stack due).step .openArray = growing (.array [] :: stack) .item :=
  step_value takes nofun

theorem step_openObject (stack : List Frame) {due : Due} (takes : due = .value ∨ due = .item) :
    (growing stack due).step .openObject = growing (.object [] :: stack) .member :=
  step_value takes nofun

/-- Where a member may come, a string is the name of one. -/
theorem step_name (stack : List Frame) (done : List (Option String × Tree)) {due : Due}
    (takes : due = .name ∨ due = .member) (name : String) :
    (growing (.object done :: stack) due).step (.string (some name)) =
      growing (.member done (some name) :: stack) .colon := by
  rcases takes with rfl | rfl
  · rfl
  · rfl

end Builder

open Builder (growing give)

mutual

/-- The tokens of a value complete its tree, where a value may come. -/
theorem read_value (stack : List Frame) (due : Due) (takes : due = .value ∨ due = .item) :
    (value : Value) → (growing stack due).read value.tokens = give value.tree stack
  | .null => Builder.step_value takes nofun
  | .bool _ => Builder.step_value takes nofun
  | .int _ => Builder.step_value takes nofun
  | .string _ => Builder.step_value takes nofun
  | .array [] => by
    show ((growing stack due).step .openArray).step .closeArray = _
    rw [Builder.step_openArray stack takes]
    rfl
  | .array (item :: rest) => by
    show ((growing stack due).step .openArray).read (itemTokens (item :: rest) ++ [.closeArray]) = _
    rw [Builder.step_openArray stack takes]
    exact read_items stack [] .item (.inr rfl) (item :: rest) nofun
  | .object [] => by
    show ((growing stack due).step .openObject).step .closeObject = _
    rw [Builder.step_openObject stack takes]
    rfl
  | .object (member :: rest) => by
    show ((growing stack due).step .openObject).read (memberTokens (member :: rest) ++ [.closeObject]) = _
    rw [Builder.step_openObject stack takes]
    exact read_members stack [] .member (.inr rfl) (member :: rest) nofun

/-- The items of an array complete it, with those before them. -/
theorem read_items (stack : List Frame) (done : List Tree) (due : Due)
    (takes : due = .value ∨ due = .item) : (items : List Value) → items ≠ [] →
    (growing (.array done :: stack) due).read (itemTokens items ++ [.closeArray]) =
      give (.array (done.reverse ++ itemTrees items) true) stack
  | [], some_ => absurd rfl some_
  | [item], _ => by
    rw [itemTokens, Builder.read_append, read_value _ due takes item]
    show give (.array (item.tree :: done).reverse true) stack = _
    rw [List.reverse_cons]
    rfl
  | item :: next :: rest, _ => by
    have others := read_items stack (item.tree :: done) .value (.inl rfl) (next :: rest) nofun
    rw [itemTokens, List.append_assoc, Builder.read_append, read_value _ due takes item]
    show (growing (.array (item.tree :: done) :: stack) .value).read
      (itemTokens (next :: rest) ++ [.closeArray]) = _
    rw [others, List.reverse_cons, List.append_assoc, List.singleton_append]
    rfl

/-- The members of an object complete it, with those before them. -/
theorem read_members (stack : List Frame) (done : List (Option String × Tree)) (due : Due)
    (takes : due = .name ∨ due = .member) : (members : List (String × Value)) → members ≠ [] →
    (growing (.object done :: stack) due).read (memberTokens members ++ [.closeObject]) =
      give (.object (done.reverse ++ memberTrees members) true) stack
  | [], some_ => absurd rfl some_
  | [(name, value)], _ => by
    have named := Builder.step_name stack done takes name
    have inner := read_value (.member done (some name) :: stack) .value (.inl rfl) value
    rw [memberTokens, List.cons_append, List.cons_append, Builder.read_cons, named, Builder.read_cons]
    show (growing (.member done (some name) :: stack) .value).read (value.tokens ++ [.closeObject]) = _
    rw [Builder.read_append, inner]
    show give (.object ((some name, value.tree) :: done).reverse true) stack = _
    rw [List.reverse_cons]
    rfl
  | (name, value) :: next :: rest, _ => by
    have named := Builder.step_name stack done takes name
    have inner := read_value (.member done (some name) :: stack) .value (.inl rfl) value
    have others := read_members stack ((some name, value.tree) :: done) .name (.inl rfl) (next :: rest) nofun
    rw [memberTokens, List.cons_append, List.cons_append, List.cons_append, List.cons_append,
      List.append_assoc, Builder.read_cons, named, Builder.read_cons]
    show (growing (.member done (some name) :: stack) .value).read
      (value.tokens ++ (.comma :: memberTokens (next :: rest) ++ [.closeObject])) = _
    rw [Builder.read_append, inner]
    show (growing (.object ((some name, value.tree) :: done) :: stack) .name).read
      (memberTokens (next :: rest) ++ [.closeObject]) = _
    rw [others, List.reverse_cons, List.append_assoc, List.singleton_append]
    rfl

end

/-- The tokens of a value are a whole document, of which it is the tree. -/
theorem ofTokens_tokens (value : Value) : Document.ofTokens value.tokens = ⟨value.tree, true⟩ := by
  have read := read_value [] .value (.inl rfl) value
  rw [Builder.read] at read
  rw [Document.ofTokens, read]
  rfl

/-- **A written value is a whole document, of which it is the tree.** -/
theorem ofText_render (value : Value) : Document.ofText value.render = ⟨value.tree, true⟩ := by
  rw [Document.ofText, Document.ofSymbols, tokens_render, ofTokens_tokens]

/-- The bytes of a text are the document that the text is. -/
theorem ofBytes_encode (text : String) : Document.ofBytes (Utf8.encode text) = Document.ofText text := by
  rw [Document.ofBytes, Utf8.decode_encode, Document.ofText]

/-- A text is decoded as what its tree is decoded as, if it is a whole document. -/
theorem decodeText_iff {α : Type} {decode : Decoder α} {text : String} {value : α} :
    decodeText decode text = .ok value ↔
      ∃ root, Document.ofText text = ⟨root, true⟩ ∧ decode root = .ok value := by
  rw [decodeText]
  obtain ⟨root, complete⟩ := Document.ofText text
  rw [Document.decode, bind_eq_ok]
  cases complete with
  | false => simp [throw, throwThe, MonadExceptOf.throw]
  | true => simp [pure, Except.pure]

/-- A decoder makes of the bytes of a text what it makes of the text. -/
theorem decodeBytes_encode {α : Type} (decode : Decoder α) (text : String) :
    decodeBytes decode (Utf8.encode text) = decodeText decode text := by
  rw [decodeBytes, ofBytes_encode, decodeText]

/-- **A decoder makes of a written value what it makes of its tree.** -/
theorem decodeText_render {α : Type} (decode : Decoder α) (value : Value) :
    decodeText decode value.render = decode value.tree := by
  rw [decodeText, ofText_render, Document.decode]
  cases decode value.tree <;> rfl

/-- **A decoder makes of the bytes of a value what it makes of its tree.** -/
theorem decodeBytes_render {α : Type} (decode : Decoder α) (value : Value) :
    decodeBytes decode (Utf8.encode value.render) = decode value.tree := by
  rw [decodeBytes_encode, decodeText_render]

end CodeJudge.Json
