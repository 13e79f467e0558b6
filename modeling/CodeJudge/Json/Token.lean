import CodeJudge.Text.Utf8

/-!
# JSON tokens

The lexical side of RFC 8259: a machine reads one symbol at a time and leaves the tokens behind. A
number keeps its text, since what it denotes depends on the place it is read for. A string keeps its
content, or `none` where the content is no text: a lone surrogate escape, or bytes that are not
UTF-8. Such a string still has a beginning and an end, so it can stand where its content is ignored.

Where the symbols stop being JSON the machine leaves the token `bad` and reads no further.
-/

namespace CodeJudge.Json

open CodeJudge.Utf8 (Symbol)

/-- A lexical unit. -/
inductive Token
  | openObject
  | closeObject
  | openArray
  | closeArray
  | colon
  | comma
  | null
  | bool (value : Bool)
  | number (text : List Char)
  | string (content : Option String)
  | bad
  deriving DecidableEq, Repr

/-- The part of a number that was read last. -/
inductive Numeral
  | minus
  | zero
  | whole
  | point
  | fraction
  | exponent
  | sign
  | power
  deriving DecidableEq, Repr

/-- Whether a number may end after this part. -/
def Numeral.mayEnd : Numeral → Bool
  | .zero | .whole | .fraction | .power => true
  | .minus | .point | .exponent | .sign => false

/-- The part that a character continues a number with. -/
def Numeral.next? (part : Numeral) (c : Char) : Option Numeral :=
  let isDigit := '0' ≤ c && c ≤ '9'
  match part with
  | .minus => if c = '0' then some .zero else if isDigit then some .whole else none
  | .zero => if c = '.' then some .point else if c = 'e' || c = 'E' then some .exponent else none
  | .whole =>
    if isDigit then some .whole
    else if c = '.' then some .point
    else if c = 'e' || c = 'E' then some .exponent else none
  | .point => if isDigit then some .fraction else none
  | .fraction =>
    if isDigit then some .fraction else if c = 'e' || c = 'E' then some .exponent else none
  | .exponent =>
    if isDigit then some .power else if c = '+' || c = '-' then some .sign else none
  | .sign | .power => if isDigit then some .power else none

/-- The content of a string, as far as it has been read. -/
structure Content where
  /-- The characters read, latest first. -/
  chars : List Char := []
  /-- A leading surrogate that waits for its trailing one. -/
  leading : Option Nat := none
  /-- Whether the content is text so far. -/
  sound : Bool := true

/-- A character that stands for itself, or a simple escape. -/
def Content.char (content : Content) (c : Char) : Content :=
  { chars := c :: content.chars, sound := content.sound && content.leading.isNone }

/-- Something that is no character. -/
def Content.spoil (content : Content) : Content :=
  { content with leading := none, sound := false }

/-- An escaped code unit. Two surrogates in a row, leading before trailing, are one character. -/
def Content.unit (content : Content) (unit : Nat) : Content :=
  if 0xD800 ≤ unit && unit < 0xDC00 then
    { content with leading := some unit, sound := content.sound && content.leading.isNone }
  else if 0xDC00 ≤ unit && unit < 0xE000 then
    match content.leading with
    | some leading =>
      { content with
        chars := Char.ofNat (0x10000 + (leading - 0xD800) * 0x400 + (unit - 0xDC00)) :: content.chars
        leading := none }
    | none => content.spoil
  else content.char (Char.ofNat unit)

/-- The whole content, when the string ends here. -/
def Content.close (content : Content) : Option String :=
  if content.sound && content.leading.isNone then some (String.ofList content.chars.reverse)
  else none

/-- Where the machine stands. -/
inductive Mode
  /-- Between two tokens. -/
  | between
  /-- Inside a literal name: the letters still to come, and the token it will be. -/
  | name (rest : List Char) (token : Token)
  /-- Inside a number, its text latest first. -/
  | number (part : Numeral) (text : List Char)
  /-- Inside a string. -/
  | string (content : Content)
  /-- After the backslash of an escape. -/
  | escape (content : Content)
  /-- Inside a code unit escape, with the digits still to come and the value of those read. -/
  | unit (content : Content) (missing : Nat) (value : Nat)
  /-- Past the point where the symbols stop being JSON. -/
  | stopped

/-- The machine: its mode and the tokens it has left, latest first. -/
structure Lexer where
  mode : Mode := .between
  done : List Token := []

/-- Leaves a token and goes on between tokens. -/
def Lexer.emit (lexer : Lexer) (token : Token) : Lexer :=
  ⟨.between, token :: lexer.done⟩

/-- Leaves `bad` and stops. -/
def Lexer.stop (lexer : Lexer) : Lexer :=
  ⟨.stopped, .bad :: lexer.done⟩

/-- Goes on in another mode. -/
def Lexer.enter (lexer : Lexer) (mode : Mode) : Lexer :=
  { lexer with mode }

/-- The value of a hexadecimal digit. -/
def hexValue? (c : Char) : Option Nat :=
  if '0' ≤ c && c ≤ '9' then some (c.toNat - 48)
  else if 'a' ≤ c && c ≤ 'f' then some (c.toNat - 87)
  else if 'A' ≤ c && c ≤ 'F' then some (c.toNat - 55)
  else none

/-- What the letter of a simple escape stands for. -/
def unescape? : Char → Option Char
  | '"' => some '"'
  | '\\' => some '\\'
  | '/' => some '/'
  | 'b' => some '\x08'
  | 'f' => some '\x0C'
  | 'n' => some '\n'
  | 'r' => some '\r'
  | 't' => some '\t'
  | _ => none

/-- Reads a character between two tokens. -/
def Lexer.begin (lexer : Lexer) (c : Char) : Lexer :=
  match c with
  | ' ' | '\n' | '\t' | '\r' => lexer.enter .between
  | '\x7b' => lexer.emit .openObject
  | '\x7d' => lexer.emit .closeObject
  | '[' => lexer.emit .openArray
  | ']' => lexer.emit .closeArray
  | ':' => lexer.emit .colon
  | ',' => lexer.emit .comma
  | '"' => lexer.enter (.string {})
  | 'n' => lexer.enter (.name ['u', 'l', 'l'] .null)
  | 't' => lexer.enter (.name ['r', 'u', 'e'] (.bool true))
  | 'f' => lexer.enter (.name ['a', 'l', 's', 'e'] (.bool false))
  | '-' => lexer.enter (.number .minus ['-'])
  | '0' => lexer.enter (.number .zero ['0'])
  | _ => if '1' ≤ c && c ≤ '9' then lexer.enter (.number .whole [c]) else lexer.stop

/-- Reads a character after the backslash of an escape. -/
def Lexer.escaped (lexer : Lexer) (content : Content) (c : Char) : Lexer :=
  if c = 'u' then lexer.enter (.unit content 4 0)
  else match unescape? c with
    | some char => lexer.enter (.string (content.char char))
    | none => lexer.stop

/-- Reads a character inside a string. -/
def Lexer.quoted (lexer : Lexer) (content : Content) (c : Char) : Lexer :=
  if c = '"' then lexer.emit (.string content.close)
  else if c = '\\' then lexer.enter (.escape content)
  else if c.toNat < 0x20 then lexer.stop
  else lexer.enter (.string (content.char c))

/-- Reads a character inside a number. One that does not continue the number is read again as the
first of what follows, if the number may end; but no digit follows a leading zero. -/
def Lexer.numeral (lexer : Lexer) (part : Numeral) (text : List Char) (c : Char) : Lexer :=
  match part.next? c with
  | some next => lexer.enter (.number next (c :: text))
  | none =>
    if part.mayEnd && !('0' ≤ c && c ≤ '9') then (lexer.emit (.number text.reverse)).begin c
    else lexer.stop

/-- Reads one symbol. -/
def Lexer.step (lexer : Lexer) (symbol : Symbol) : Lexer :=
  match lexer.mode, symbol with
  | .stopped, _ => lexer
  | .string content, none => lexer.enter (.string content.spoil)
  | .number part text, none =>
    if part.mayEnd then (lexer.emit (.number text.reverse)).stop else lexer.stop
  | _, none => lexer.stop
  | .between, some c => lexer.begin c
  | .name [] token, some _ => (lexer.emit token).stop
  | .name [last] token, some c => if c = last then lexer.emit token else lexer.stop
  | .name (next :: rest) token, some c =>
    if c = next then lexer.enter (.name rest token) else lexer.stop
  | .number part text, some c => lexer.numeral part text c
  | .string content, some c => lexer.quoted content c
  | .escape content, some c => lexer.escaped content c
  | .unit content missing value, some c =>
    match hexValue? c with
    | none => lexer.stop
    | some digit =>
      let value := value * 16 + digit
      if missing ≤ 1 then lexer.enter (.string (content.unit value))
      else lexer.enter (.unit content (missing - 1) value)

/-- All tokens, once the symbols have ended. -/
def Lexer.finish (lexer : Lexer) : List Token :=
  match lexer.mode with
  | .between | .stopped => lexer.done.reverse
  | .number part text =>
    if part.mayEnd then (lexer.emit (.number text.reverse)).done.reverse
    else lexer.stop.done.reverse
  | _ => lexer.stop.done.reverse

/-- The tokens of a sequence of symbols. -/
def tokens (symbols : List Symbol) : List Token :=
  (symbols.foldl Lexer.step {}).finish

/-! ## Written tokens -/

/-- A hexadecimal digit, small letters past nine. -/
def hexDigit (n : Nat) : Char :=
  if n < 10 then Char.ofNat (48 + n) else Char.ofNat (87 + n)

/-- A character inside a written string. Quote, backslash and the control characters are escaped,
those with a letter of their own by that letter. -/
def escape (c : Char) : List Char :=
  if c = '"' then ['\\', '"']
  else if c = '\\' then ['\\', '\\']
  else if c = '\x08' then ['\\', 'b']
  else if c = '\x0C' then ['\\', 'f']
  else if c = '\n' then ['\\', 'n']
  else if c = '\r' then ['\\', 'r']
  else if c = '\t' then ['\\', 't']
  else if c.toNat < 0x20 then ['\\', 'u', '0', '0', hexDigit (c.toNat / 16), hexDigit (c.toNat % 16)]
  else [c]

/-- A written string. -/
def quote (text : String) : List Char :=
  '"' :: text.toList.flatMap escape ++ ['"']

/-- A written token. -/
def Token.render : Token → List Char
  | .openObject => ['\x7b']
  | .closeObject => ['\x7d']
  | .openArray => ['[']
  | .closeArray => [']']
  | .colon => [':']
  | .comma => [',']
  | .null => ['n', 'u', 'l', 'l']
  | .bool true => ['t', 'r', 'u', 'e']
  | .bool false => ['f', 'a', 'l', 's', 'e']
  | .number text => text
  | .string (some content) => quote content
  | .string none | .bad => []

end CodeJudge.Json
