import CodeJudge.Json.Token

/-!
# JSON trees

The syntactic side of RFC 8259: a machine with a stack of open arrays and objects reads one token at
a time and grows a tree.

A text that stops being JSON somewhere still has a tree: what was read up to that point. Every array
and object that was open there is marked as not closed, and a value that was due but did not come is
`broken`. So a reader that walks the tree in order meets the first fault of the text where the text
has it, and can tell a fault of content that stands before it from one that stands behind.
-/

namespace CodeJudge.Json

/-- What was read of a value. -/
inductive Tree
  | null
  | bool (value : Bool)
  | number (text : List Char)
  | string (content : Option String)
  | array (items : List Tree) (closed : Bool)
  | object (members : List (Option String × Tree)) (closed : Bool)
  | broken

/-- An array or object that is open, its contents latest first. -/
inductive Frame
  | array (items : List Tree)
  /-- Between two members. -/
  | object (members : List (Option String × Tree))
  /-- After the name of a member, before its value has ended. -/
  | member (members : List (Option String × Tree)) (name : Option String)

/-- What may come next. -/
inductive Due
  /-- A value. -/
  | value
  /-- The first item of an array, or its end. -/
  | item
  /-- The name of a member. -/
  | name
  /-- The first member of an object, or its end. -/
  | member
  /-- The colon between a name and its value. -/
  | colon
  /-- A comma, or the end of the array or object at hand. -/
  | comma
  deriving DecidableEq

/-- A text as far as it was read. -/
structure Document where
  root : Tree
  /-- Whether the value is the whole text. -/
  complete : Bool

/-- The machine: growing below a stack of frames, or finished. -/
inductive Builder
  | growing (stack : List Frame) (due : Due)
  | finished (document : Document)

/-- The tree of everything that is open, when nothing more comes. `last` is the item or member value
that was completed last and is not yet in its frame. -/
def abandon (last : Option Tree) : List Frame → Tree
  | [] => last.getD .broken
  | .array items :: rest =>
    abandon (some (.array (last.toList ++ items).reverse false)) rest
  | .object members :: rest =>
    abandon (some (.object members.reverse false)) rest
  | .member members name :: rest =>
    abandon (some (.object ((name, last.getD .broken) :: members).reverse false)) rest

/-- A value has been completed. -/
def Builder.give (value : Tree) : List Frame → Builder
  | [] => .finished ⟨value, true⟩
  | .array items :: rest => .growing (.array (value :: items) :: rest) .comma
  | .member members name :: rest => .growing (.object ((name, value) :: members) :: rest) .comma
  | .object members :: rest => .finished ⟨abandon none (.object members :: rest), false⟩

/-- The text stops being JSON here. -/
def Builder.fail (stack : List Frame) : Builder :=
  .finished ⟨abandon none stack, false⟩

/-- Reads a token where a value is due. -/
def Builder.value (stack : List Frame) : Token → Builder
  | .null => .give .null stack
  | .bool value => .give (.bool value) stack
  | .number text => .give (.number text) stack
  | .string content => .give (.string content) stack
  | .openArray => .growing (.array [] :: stack) .item
  | .openObject => .growing (.object [] :: stack) .member
  | _ => .fail stack

/-- Reads one token. -/
def Builder.step (builder : Builder) (token : Token) : Builder :=
  match builder with
  | .finished document => .finished { document with complete := false }
  | .growing stack due =>
    match due, token, stack with
    | .item, .closeArray, .array items :: rest => .give (.array items.reverse true) rest
    | .comma, .closeArray, .array items :: rest => .give (.array items.reverse true) rest
    | .comma, .comma, .array _ :: _ => .growing stack .value
    | .member, .closeObject, .object members :: rest => .give (.object members.reverse true) rest
    | .comma, .closeObject, .object members :: rest => .give (.object members.reverse true) rest
    | .comma, .comma, .object _ :: _ => .growing stack .name
    | .member, .string name, .object members :: rest =>
      .growing (.member members name :: rest) .colon
    | .name, .string name, .object members :: rest =>
      .growing (.member members name :: rest) .colon
    | .colon, .colon, _ => .growing stack .value
    | .value, token, _ => .value stack token
    | .item, token, _ => .value stack token
    | _, _, _ => .fail stack

/-- What was read, once the tokens have ended. -/
def Builder.finish : Builder → Document
  | .finished document => document
  | .growing stack _ => ⟨abandon none stack, false⟩

/-- The document of a sequence of tokens. -/
def Document.ofTokens (tokens : List Token) : Document :=
  (tokens.foldl Builder.step (.growing [] .value)).finish

/-- The document of a sequence of symbols. -/
def Document.ofSymbols (symbols : List Utf8.Symbol) : Document :=
  .ofTokens (tokens symbols)

/-- The document of a byte sequence. -/
def Document.ofBytes (bytes : Bytes) : Document :=
  .ofSymbols (Utf8.decode bytes)

/-- The document of a text. -/
def Document.ofText (text : String) : Document :=
  .ofSymbols (text.toList.map some)

end CodeJudge.Json
