import CodeJudge.Json.Tree
import CodeJudge.Text.Decimal

/-!
# JSON values to be written

The values that this library writes: numbers are whole, strings are text. A value is written without
blanks, the members of an object in the order in which they are given.
-/

namespace CodeJudge.Json

/-- A value to be written. -/
inductive Value
  | null
  | bool (value : Bool)
  | int (value : Int)
  | string (text : String)
  | array (items : List Value)
  | object (members : List (String × Value))

mutual

/-- The tokens of a value. -/
def Value.tokens : Value → List Token
  | .null => [.null]
  | .bool value => [.bool value]
  | .int value => [.number (Decimal.render value)]
  | .string text => [.string (some text)]
  | .array items => .openArray :: itemTokens items ++ [.closeArray]
  | .object members => .openObject :: memberTokens members ++ [.closeObject]

/-- The tokens of the items of an array. -/
def itemTokens : List Value → List Token
  | [] => []
  | [item] => item.tokens
  | item :: next :: rest => item.tokens ++ .comma :: itemTokens (next :: rest)

/-- The tokens of the members of an object. -/
def memberTokens : List (String × Value) → List Token
  | [] => []
  | [(name, value)] => .string (some name) :: .colon :: value.tokens
  | (name, value) :: next :: rest =>
    .string (some name) :: .colon :: value.tokens ++ .comma :: memberTokens (next :: rest)

end

/-- The text of a value. -/
def Value.render (value : Value) : String :=
  String.ofList (value.tokens.flatMap Token.render)

mutual

/-- The tree that reading a written value gives. -/
def Value.tree : Value → Tree
  | .null => .null
  | .bool value => .bool value
  | .int value => .number (Decimal.render value)
  | .string text => .string (some text)
  | .array items => .array (itemTrees items) true
  | .object members => .object (memberTrees members) true

/-- The trees of the items of an array. -/
def itemTrees : List Value → List Tree
  | [] => []
  | item :: rest => item.tree :: itemTrees rest

/-- The trees of the members of an object. -/
def memberTrees : List (String × Value) → List (Option String × Tree)
  | [] => []
  | (name, value) :: rest => (some name, value.tree) :: memberTrees rest

end

/-- The text of an optional value: `null` for none. -/
def Value.ofOption {α : Type} (write : α → Value) : Option α → Value
  | none => .null
  | some value => write value

/-- A list of texts. -/
def Value.strings (texts : List String) : Value :=
  .array (texts.map .string)

end CodeJudge.Json
