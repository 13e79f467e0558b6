import CodeJudge.Json.Value

/-!
# Typed decoding

Reading a tree as a value of a type. A decoder walks the tree in the order of the text, so the error
it gives is the first fault of the text, be it of syntax or of content.

A record is read from an object, its members in any order, or from an array of its fields in their
order. In an object an unknown member is ignored and a known one may come once. A field that is not
given takes its default, where it has one: `absent` in an object, `cut` in an array that ends early.
-/

namespace CodeJudge.Json

/-- Why a text is not the value asked for. -/
inductive DecodeError
  /-- The text is not JSON. -/
  | malformed
  /-- A value of another kind, or a number that does not fit. -/
  | mismatch
  /-- A field is not given. -/
  | missing (field : String)
  /-- A field is given twice. -/
  | duplicate (field : String)
  /-- An array holds more than the fields of the record. -/
  | surplus
  /-- A number that is no code of the enumeration. -/
  | unknownCode (enumeration : String) (code : Int)
  deriving DecidableEq, Repr

/-- What is said of a text that is not the value asked for. Where in the text the fault lies is not
said. -/
def DecodeError.message : DecodeError → String
  | malformed => "malformed JSON"
  | mismatch => "invalid type or value"
  | missing field => "missing field `" ++ field ++ "`"
  | duplicate field => "duplicate field `" ++ field ++ "`"
  | surplus => "trailing characters"
  | unknownCode enumeration code =>
    "unknown " ++ enumeration ++ " code " ++ String.ofList (Decimal.render code)

/-- Reads a tree as a value of a type. -/
abbrev Decoder (α : Type) := Tree → Except DecodeError α

/-- Fails for a tree that is no value asked for: either the text ends in it, or it is another kind
of value. -/
def refuse {α : Type} : Decoder α
  | .broken => .error .malformed
  | _ => .error .mismatch

/-- The whole number that a literal denotes. A literal with a fraction or an exponent denotes none,
and neither does minus zero. -/
def integer? (text : List Char) : Option Int :=
  match text with
  | ['-', '0'] => none
  | '+' :: _ => none
  | _ => Decimal.readInt? text

/-- A whole number within bounds. -/
def integer (bounds : Decimal.Bounds) : Decoder Int
  | .number text =>
    match (integer? text).bind bounds.admit? with
    | some n => .ok n
    | none => .error .mismatch
  | tree => refuse tree

/-- A signed number of 64 bits. -/
def int64 : Decoder Int64 := fun tree => Int64.ofInt <$> integer Decimal.int64 tree

/-- A signed number of 32 bits. -/
def int32 : Decoder Int32 := fun tree => Int32.ofInt <$> integer Decimal.int32 tree

/-- An unsigned number within bounds. -/
def natural (bounds : Decimal.Bounds) : Decoder Nat := fun tree => Int.toNat <$> integer bounds tree

/-- A text. -/
def text : Decoder String
  | .string (some content) => .ok content
  | .string none => .error .malformed
  | tree => refuse tree

/-- Decodes the items of an array in order. -/
def items {α : Type} (decode : Decoder α) : List Tree → Except DecodeError (List α)
  | [] => .ok []
  | tree :: rest => do
    let head ← decode tree
    let tail ← items decode rest
    return head :: tail

/-- A list. -/
def list {α : Type} (decode : Decoder α) : Decoder (List α)
  | .array trees closed => do
    let values ← items decode trees
    if closed then return values else throw .malformed
  | tree => refuse tree

/-- A value or `null`. -/
def optional {α : Type} (decode : Decoder α) : Decoder (Option α)
  | .null => .ok none
  | tree => some <$> decode tree

/-- A field of a record. -/
structure Field (α : Type) where
  name : String
  decode : Decoder α
  /-- Taken when an object does not name the field. -/
  absent : Option α := none
  /-- Taken when an array ends before the field. -/
  cut : Option α := none

/-- A record of type `α` under decoding: what was read of it so far has type `σ`. -/
structure Record (σ α : Type) where
  /-- The names of the fields, in order. -/
  names : List String
  /-- Nothing read yet. -/
  blank : σ
  /-- Reads the field of a given name, which is one of `names`. -/
  put : String → Tree → σ → Except DecodeError σ
  /-- The record, once everything given was read from an object or (`short`) from an array. -/
  finish : (short : Bool) → σ → Except DecodeError α

/-- A field as a record of its own. -/
def Field.record {α : Type} (field : Field α) : Record (Option α) α where
  names := [field.name]
  blank := none
  put _ tree
    | none => some <$> field.decode tree
    | some _ => .error (.duplicate field.name)
  finish short
    | some value => .ok value
    | none =>
      match if short then field.cut else field.absent with
      | some value => .ok value
      | none => .error (.missing field.name)

/-- The fields of one record, then those of another. -/
def Record.also {σ τ α β : Type} (left : Record σ α) (right : Record τ β) :
    Record (σ × τ) (α × β) where
  names := left.names ++ right.names
  blank := (left.blank, right.blank)
  put name tree state :=
    if left.names.contains name then do
      let read ← left.put name tree state.1
      return (read, state.2)
    else do
      let read ← right.put name tree state.2
      return (state.1, read)
  finish short state := do
    let head ← left.finish short state.1
    let tail ← right.finish short state.2
    return (head, tail)

/-- The record that a function makes of the fields. -/
def Record.map {σ α β : Type} (record : Record σ α) (make : α → β) : Record σ β where
  names := record.names
  blank := record.blank
  put := record.put
  finish short state := make <$> record.finish short state

/-- Reads the members of an object in order. -/
def Record.members {σ α : Type} (record : Record σ α) (state : σ) :
    List (Option String × Tree) → Except DecodeError σ
  | [] => .ok state
  | (none, _) :: _ => .error .malformed
  | (some name, tree) :: rest =>
    if record.names.contains name then do
      let read ← record.put name tree state
      record.members read rest
    else record.members state rest

/-- Reads the items of an array as the fields of the given names. -/
def Record.places {σ α : Type} (record : Record σ α) (state : σ) :
    List String → List Tree → Except DecodeError σ
  | _, [] => .ok state
  | [], _ :: _ => .error .surplus
  | name :: names, tree :: rest => do
    let read ← record.put name tree state
    record.places read names rest

/-- Decodes a record. -/
def Record.decode {σ α : Type} (record : Record σ α) : Decoder α
  | .object members closed => do
    let state ← record.members record.blank members
    if closed then record.finish false state else throw .malformed
  | .array trees closed => do
    let state ← record.places record.blank record.names trees
    if closed then record.finish true state else throw .malformed
  | tree => refuse tree

/-- Decodes a document: the value must be the whole text. -/
def Document.decode {α : Type} (document : Document) (decode : Decoder α) : Except DecodeError α := do
  let value ← decode document.root
  if document.complete then return value else throw .malformed

/-- Decodes a text. -/
def decodeText {α : Type} (decode : Decoder α) (text : String) : Except DecodeError α :=
  (Document.ofText text).decode decode

/-- Decodes a byte sequence. -/
def decodeBytes {α : Type} (decode : Decoder α) (bytes : Bytes) : Except DecodeError α :=
  (Document.ofBytes bytes).decode decode

end CodeJudge.Json
