/-!
# Blanks, words and lines

The characters with the Unicode property White_Space, and what is built on them: trimming, words and
lines. A line ends at a line feed, and a carriage return right before it belongs to the line's end.
-/

namespace CodeJudge.Blank

/-- The characters with the property White_Space. -/
def isBlank (c : Char) : Bool :=
  let n := c.toNat
  (9 ≤ n && n ≤ 13) || n = 0x20 || n = 0x85 || n = 0xA0 || n = 0x1680
    || (0x2000 ≤ n && n ≤ 0x200A) || n = 0x2028 || n = 0x2029 || n = 0x202F
    || n = 0x205F || n = 0x3000

/-- The text without the blanks at either end. -/
def trim (text : List Char) : List Char :=
  ((text.dropWhile isBlank).reverse.dropWhile isBlank).reverse

/-- The first run of characters that are not blank. -/
def firstWord? (text : List Char) : Option (List Char) :=
  match (text.dropWhile isBlank).takeWhile (!isBlank ·) with
  | [] => none
  | word => some word

/-- Removes the carriage return that ends a line, if there is one. -/
def dropReturn (line : List Char) : List Char :=
  match line.reverse with
  | '\r' :: rest => rest.reverse
  | _ => line

/-- The lines of a text; `held` is the line being read, latest character first. -/
def linesFrom (held : List Char) : List Char → List (List Char)
  | [] => if held.isEmpty then [] else [held.reverse]
  | '\n' :: rest => dropReturn held.reverse :: linesFrom [] rest
  | c :: rest => linesFrom (c :: held) rest

/-- The lines of a text. What follows the last line feed is a line unless it is empty. -/
def lines (text : List Char) : List (List Char) := linesFrom [] text

/-- ASCII capitals become small letters; every other character stays. -/
def lowerAscii (c : Char) : Char :=
  if 'A' ≤ c && c ≤ 'Z' then Char.ofNat (c.toNat + 32) else c

end CodeJudge.Blank
