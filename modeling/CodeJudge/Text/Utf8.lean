import CodeJudge.Bytes

/-!
# UTF-8

Encoding a text, and decoding bytes that may not be text.

Decoding is a machine that reads one byte at a time. Between two characters it has no state; inside
one it remembers the bits read, how many bytes are still missing, and the range the next byte must
lie in. The ranges are those of the well-formed byte sequences: they exclude overlong forms,
surrogates and scalars past U+10FFFF, so a character is never built from bits that name none.

A byte that does not continue the character at hand ends it: everything read of that character is
one **ill-formed part**, reported once, and the byte is read again as a first byte. So each maximal
ill-formed part gives exactly one `none` among the decoded symbols. `lossy` shows it as U+FFFD,
`strict?` refuses the whole.
-/

namespace CodeJudge.Utf8

/-- A decoded character, or `none` for one ill-formed part. -/
abbrev Symbol := Option Char

/-- The bytes of a text. -/
def encode (text : String) : Bytes :=
  text.toList.flatMap String.utf8EncodeChar

/-- A character whose first byte has been read. -/
structure Pending where
  /-- The payload bits read so far. -/
  bits : Nat
  /-- The bytes missing after the next one. -/
  after : Nat
  /-- The least value the next byte may have. -/
  low : UInt8
  /-- The greatest value the next byte may have. -/
  high : UInt8

/-- What a first byte means: a symbol of its own, or the start of a longer character. -/
def first (byte : UInt8) : Symbol ⊕ Pending :=
  let bits := byte.toNat
  if byte < 0x80 then .inl (some (Char.ofNat bits))
  else if byte < 0xC2 then .inl none
  else if byte < 0xE0 then .inr ⟨bits % 32, 0, 0x80, 0xBF⟩
  else if byte = 0xE0 then .inr ⟨bits % 16, 1, 0xA0, 0xBF⟩
  else if byte = 0xED then .inr ⟨bits % 16, 1, 0x80, 0x9F⟩
  else if byte < 0xF0 then .inr ⟨bits % 16, 1, 0x80, 0xBF⟩
  else if byte = 0xF0 then .inr ⟨bits % 8, 2, 0x90, 0xBF⟩
  else if byte < 0xF4 then .inr ⟨bits % 8, 2, 0x80, 0xBF⟩
  else if byte = 0xF4 then .inr ⟨bits % 8, 2, 0x80, 0x8F⟩
  else .inl none

/-- The decoder between two bytes. -/
structure Reader where
  /-- The symbols decoded, latest first. -/
  done : List Symbol := []
  /-- The character being read, if any. -/
  pending : Option Pending := none

/-- Reads a byte as the first of a character. -/
def Reader.start (done : List Symbol) (byte : UInt8) : Reader :=
  match first byte with
  | .inl symbol => ⟨symbol :: done, none⟩
  | .inr pending => ⟨done, some pending⟩

/-- Reads one byte. -/
def Reader.step (reader : Reader) (byte : UInt8) : Reader :=
  match reader.pending with
  | none => .start reader.done byte
  | some pending =>
    if pending.low ≤ byte && byte ≤ pending.high then
      let bits := pending.bits * 64 + byte.toNat % 64
      match pending.after with
      | 0 => ⟨some (Char.ofNat bits) :: reader.done, none⟩
      | after + 1 => ⟨reader.done, some ⟨bits, after, 0x80, 0xBF⟩⟩
    else .start (none :: reader.done) byte

/-- All symbols, once the bytes have ended. -/
def Reader.finish (reader : Reader) : List Symbol :=
  match reader.pending with
  | none => reader.done.reverse
  | some _ => (none :: reader.done).reverse

/-- The symbols of a byte sequence. -/
def decode (bytes : Bytes) : List Symbol :=
  (bytes.foldl Reader.step {}).finish

/-- Shown in place of an ill-formed part. -/
def replacement : Char := '\uFFFD'

/-- The text of a byte sequence, each ill-formed part shown as U+FFFD. -/
def lossy (bytes : Bytes) : String :=
  String.ofList ((decode bytes).map (·.getD replacement))

/-- The text of a byte sequence that is well-formed throughout. -/
def strict? (bytes : Bytes) : Option String :=
  let symbols := decode bytes
  if symbols.all (·.isSome) then some (String.ofList (symbols.filterMap id)) else none

end CodeJudge.Utf8
