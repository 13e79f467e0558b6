/-!
# Bytes

What programs print and what files hold: a sequence of bytes, with no promise that it is text.
`Text.Utf8` turns bytes into text and back.
-/

namespace CodeJudge

/-- A sequence of bytes. -/
abbrev Bytes := List UInt8

/-- The first `limit` bytes: what a reader with a bound sees of a longer file. -/
def Bytes.head (limit : Nat) (bytes : Bytes) : Bytes := bytes.take limit

end CodeJudge
