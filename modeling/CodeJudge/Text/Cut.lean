import CodeJudge.Bytes

/-!
# Cutting text

Captured output travels back in a verdict, so it is bounded: at most `limit` bytes, ending where a
character ends. The cut is found by walking back from the limit to the nearest character boundary.
-/

namespace CodeJudge.Cut

/-- The most bytes of captured output that a verdict carries. -/
def limit : Nat := 4096

/-- The number of bytes of the UTF-8 form of a text. -/
def size (text : List Char) : Nat :=
  text.foldl (fun sum c => sum + c.utf8Size) 0

/-- Whether a whole number of characters of the text takes up exactly `position` bytes. -/
def isBoundary : List Char → Nat → Bool
  | _, 0 => true
  | [], _ + 1 => false
  | c :: rest, position + 1 =>
    c.utf8Size ≤ position + 1 && isBoundary rest (position + 1 - c.utf8Size)

/-- The greatest boundary that is at most `position`, found by walking back from it. -/
def boundaryBefore (text : List Char) : Nat → Nat
  | 0 => 0
  | position + 1 =>
    if isBoundary text (position + 1) then position + 1 else boundaryBefore text position

/-- The longest run of characters from the front that fits into `count` bytes. -/
def takeBytes : List Char → Nat → List Char
  | [], _ => []
  | c :: rest, count => if c.utf8Size ≤ count then c :: takeBytes rest (count - c.utf8Size) else []

/-- The text, cut to at most `limit` bytes on a character boundary. -/
def truncate (text : String) : String :=
  let chars := text.toList
  if size chars ≤ limit then text
  else String.ofList (takeBytes chars (boundaryBefore chars limit))

end CodeJudge.Cut
