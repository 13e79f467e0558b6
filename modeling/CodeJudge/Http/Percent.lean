import CodeJudge.Text.Utf8

/-!
# Percent-encoding

Bytes that a path cannot hold stand in it as a percent sign and two hexadecimal digits. Decoding takes
every such group for its byte, and leaves alone a percent sign that begins none.
-/

namespace CodeJudge.Http.Percent

/-- The hexadecimal digit of a number below sixteen, in capitals. -/
def digit (n : Nat) : Char := Char.ofNat (if n < 10 then 48 + n else 55 + n)

/-- The value of a hexadecimal digit in either case. -/
def value? (c : Char) : Option Nat :=
  if '0' ≤ c && c ≤ '9' then some (c.toNat - 48)
  else if 'A' ≤ c && c ≤ 'F' then some (c.toNat - 55)
  else if 'a' ≤ c && c ≤ 'f' then some (c.toNat - 87)
  else none

/-- A byte as a group. -/
def group (byte : UInt8) : List Char := ['%', digit (byte.toNat / 16), digit (byte.toNat % 16)]

/-- Encodes the characters that may not stand as they are, and everything beyond ASCII. -/
def encode (mayStand : Char → Bool) (text : List Char) : List Char :=
  text.flatMap fun c =>
    if c.toNat < 128 && mayStand c then [c] else (String.utf8EncodeChar c).flatMap group

/-- The byte that two digits stand for. -/
def byte? (high low : Char) : Option UInt8 := do
  let high ← value? high
  let low ← value? low
  return UInt8.ofNat (high * 16 + low)

/-- The bytes that a text stands for. -/
def decodeBytes : List Char → Bytes
  | [] => []
  | '%' :: high :: low :: rest =>
    match byte? high low with
    | some byte => byte :: decodeBytes rest
    | none => String.utf8EncodeChar '%' ++ decodeBytes (high :: low :: rest)
  | c :: rest => String.utf8EncodeChar c ++ decodeBytes rest

/-- The text that a text stands for. -/
def decode (text : List Char) : String := Utf8.lossy (decodeBytes text)

end CodeJudge.Http.Percent
