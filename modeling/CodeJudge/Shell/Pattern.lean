import CodeJudge.Shell.Octets

/-!
# Shell patterns

Patterns match whole texts. A character that was quoted stands for itself; the others may be a
wildcard or the beginning of a set.
-/

namespace CodeJudge.Shell

/-- A character of a pattern, and whether it was quoted. -/
abbrev Marked := List (Char × Bool)

/-- One part of a pattern. -/
inductive Glyph
  | one (c : Char)
  | any
  | many
  /-- A set of ranges, or everything outside it. -/
  | set (negated : Bool) (ranges : List (Char × Char))
  deriving DecidableEq, Repr

namespace Glyph

/-- The classes of characters that a set may name. -/
def classes : List (String × List (Char × Char)) :=
  [("[:digit:]", [('0', '9')]), ("[:upper:]", [('A', 'Z')]), ("[:lower:]", [('a', 'z')]),
    ("[:alpha:]", [('a', 'z'), ('A', 'Z')]), ("[:alnum:]", [('a', 'z'), ('A', 'Z'), ('0', '9')]),
    ("[:space:]", [(' ', ' '), ('\t', '\r')]), ("[:blank:]", [(' ', ' '), ('\t', '\t')]),
    ("[:punct:]", [('!', '/'), (':', '@'), ('[', '\x60'), ('\x7b', '~')]),
    ("[:xdigit:]", [('0', '9'), ('a', 'f'), ('A', 'F')]), ("[:print:]", [(' ', '~')]),
    ("[:graph:]", [('!', '~')]), ("[:cntrl:]", [('\x00', '\x1f'), ('\x7f', '\x7f')])]

/-- The class whose name stands at the front of a set. -/
def class? (text : Marked) : Option (String × List (Char × Char)) :=
  classes.find? fun entry => entry.1.toList.isPrefixOf (text.map (·.1))

/-- The ranges of a set, up to its closing bracket; the first member may be a bracket. -/
def ranges (held : List (Char × Char)) : Nat → Marked → Option (List (Char × Char) × Marked)
  | 0, _ => none
  | _, [] => none
  | fuel + 1, (c, quoted) :: rest =>
    if c = ']' && !quoted && !held.isEmpty then some (held.reverse, rest)
    else if let some (name, members) := class? ((c, quoted) :: rest) then
      ranges (members ++ held) fuel (rest.drop (name.length - 1))
    else
      match rest with
      | ('-', false) :: (upper, upperQuoted) :: after =>
        if upper = ']' && !upperQuoted then ranges ((c, c) :: held) fuel rest
        else ranges ((c, upper) :: held) fuel after
      | _ => ranges ((c, c) :: held) fuel rest

/-- The parts of a pattern. -/
def ofMarked : Nat → Marked → List Glyph
  | 0, _ => []
  | _, [] => []
  | fuel + 1, (c, quoted) :: rest =>
    if quoted then .one c :: ofMarked fuel rest
    else if c = '*' then .many :: ofMarked fuel rest
    else if c = '?' then .any :: ofMarked fuel rest
    else if c = '\\' then
      match rest with
      | (next, _) :: after => .one next :: ofMarked fuel after
      | [] => [.one '\\']
    else if c = '[' then
      let (negated, inside) : Bool × Marked := match rest with
        | ('!', false) :: inside => (true, inside)
        | _ => (false, rest)
      match ranges [] (rest.length + 1) inside with
      | some (ranges, after) => .set negated ranges :: ofMarked fuel after
      | none => .one '[' :: ofMarked fuel rest
    else .one c :: ofMarked fuel rest

/-- Whether a part that stands for one character stands for this one. -/
def accepts (glyph : Glyph) (c : Char) : Bool :=
  match glyph with
  | .one d => c = d
  | .any => true
  | .many => false
  | .set negated ranges => ranges.any (fun range => range.1 ≤ c && c ≤ range.2) != negated

/-- Whether a pattern matches a whole text. -/
def matchesAll : List Glyph → Octets → Bool
  | [], text => text.isEmpty
  | .many :: glyphs, text =>
    matchesAll glyphs text ||
      match text with
      | [] => false
      | _ :: rest => matchesAll (.many :: glyphs) rest
  | _ :: _, [] => false
  | glyph :: glyphs, c :: rest => glyph.accepts c && matchesAll glyphs rest
termination_by glyphs text => glyphs.length + text.length

end Glyph

/-- Whether a pattern matches a whole text. -/
def Marked.matchesText (pattern : Marked) (text : Octets) : Bool :=
  Glyph.matchesAll (Glyph.ofMarked (pattern.length + 1) pattern) text

/-- Whether a pattern holds a wildcard. -/
def Marked.isWild (pattern : Marked) : Bool :=
  pattern.any fun (c, quoted) => !quoted && (c = '*' || c = '?' || c = '[')

/-- The characters of a pattern. -/
def Marked.text (pattern : Marked) : Octets := pattern.map (·.1)

/-- Takes off the front of a text what a pattern matches: the shortest such part, or the longest. -/
def Marked.dropFront (pattern : Marked) (longest : Bool) (text : Octets) : Octets :=
  let cuts := List.range (text.length + 1)
  let cuts := if longest then cuts.reverse else cuts
  match cuts.find? fun n => pattern.matchesText (text.take n) with
  | some n => text.drop n
  | none => text

/-- Takes off the end of a text what a pattern matches: the shortest such part, or the longest. -/
def Marked.dropBack (pattern : Marked) (longest : Bool) (text : Octets) : Octets :=
  let cuts := List.range (text.length + 1)
  let cuts := if longest then cuts else cuts.reverse
  match cuts.find? fun n => pattern.matchesText (text.drop n) with
  | some n => text.take n
  | none => text

end CodeJudge.Shell
