import CodeJudge.Text.Decimal
import CodeJudge.Text.Utf8

/-!
# Octets

The shell works on bytes, not on text: a word may hold any of them. A byte is written here as the
character with its number, so that scripts can be taken apart by their characters.
-/

namespace CodeJudge.Shell

/-- A sequence of bytes, each as the character with its number. -/
abbrev Octets := List Char

namespace Octets

/-- The octets of bytes. -/
def ofBytes (bytes : Bytes) : Octets := bytes.map fun byte => Char.ofNat byte.toNat

/-- The octets of a byte array. -/
def ofArray (bytes : ByteArray) : Octets := ofBytes bytes.toList

/-- The octets of a text. -/
def ofText (text : String) : Octets := ofBytes (Utf8.encode text)

/-- The bytes of octets. -/
def toBytes (octets : Octets) : Bytes := octets.map fun c => UInt8.ofNat c.toNat

/-- The byte array of octets. -/
def toArray (octets : Octets) : ByteArray := octets.toBytes.toByteArray

/-- The text of octets. -/
def toText (octets : Octets) : String := Utf8.lossy octets.toBytes

/-- The octets of a number. -/
def ofInt (n : Int) : Octets := Decimal.render n

/-- Cuts octets at every newline; a last piece after the last newline counts unless it is empty. -/
def lines (octets : Octets) : List Octets :=
  let rec go (held : Octets) : Octets → List Octets
    | [] => if held.isEmpty then [] else [held.reverse]
    | '\n' :: rest => held.reverse :: go [] rest
    | c :: rest => go (c :: held) rest
  go [] octets

/-- Whether octets come no later than others in the order of the bytes. -/
def noLater (a b : Octets) : Bool := !decide (b < a)

end Octets

end CodeJudge.Shell
