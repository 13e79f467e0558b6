import CodeJudge.Http.Percent

/-!
# Addresses of resources

What a client asks for when it is given the text of an address: whom it connects to, and the target
that it names in the request. Blanks around the text and breaks inside it do not count. A question mark
ends the path, and a number sign the whole. Segments of dots are carried out at once, and what a path
may not hold is percent-encoded; a percent sign is left as it is.
-/

namespace CodeJudge.Http

/-- Whom to connect to, and what to ask for. -/
structure Url where
  authority : String
  target : String
  deriving DecidableEq, Repr

namespace Url

/-- What an address begins with. -/
def scheme : List Char := ['h', 't', 't', 'p', ':', '/', '/']

/-- Whether a character is cut off at both ends of an address. -/
def isEdge (c : Char) : Bool := c.toNat ≤ 32

/-- Whether a character is taken out wherever it stands. -/
def isBreak (c : Char) : Bool := c = '\t' || c = '\n' || c = '\r'

/-- The text of an address, cleaned. -/
def clean (text : List Char) : List Char :=
  let trimmed := ((text.dropWhile isEdge).reverse.dropWhile isEdge).reverse
  trimmed.filter (!isBreak ·)

/-- Whether a character ends the name of whom to connect to. -/
def endsAuthority (c : Char) : Bool := c = '/' || c = '\\' || c = '?' || c = '#'

/-- Whether an ASCII character may stand in a path. -/
def mayStandInPath (c : Char) : Bool :=
  33 ≤ c.toNat && c.toNat < 127 && c ∉ ['"', '#', '<', '>', '?', '\x60', '\x7b', '\x7d']

/-- Whether an ASCII character may stand in a query. -/
def mayStandInQuery (c : Char) : Bool :=
  33 ≤ c.toNat && c.toNat < 127 && c ∉ ['"', '#', '<', '>', '\'']

/-- Cuts a path at every slash, also at one that leans back. -/
def segmentsFrom (held : List Char) : List Char → List (List Char)
  | [] => [held.reverse]
  | c :: rest =>
    if c = '/' || c = '\\' then held.reverse :: segmentsFrom [] rest
    else segmentsFrom (c :: held) rest

/-- A segment with encoded dots written out. -/
def dotsOf : List Char → List Char
  | '%' :: '2' :: 'e' :: rest => '.' :: dotsOf rest
  | '%' :: '2' :: 'E' :: rest => '.' :: dotsOf rest
  | c :: rest => c :: dotsOf rest
  | [] => []

/-- Carries out the segments of a path, given those kept before, latest first. A path that ends in a
segment of dots ends in a slash. -/
def walk (kept : List (List Char)) : List (List Char) → List (List Char)
  | [] => kept.reverse
  | segment :: rest =>
    let dots := dotsOf segment
    if dots = ['.', '.'] then
      if rest.isEmpty then ([] :: kept.tail).reverse else walk kept.tail rest
    else if dots = ['.'] then
      if rest.isEmpty then ([] :: kept).reverse else walk kept rest
    else walk (Percent.encode mayStandInPath segment :: kept) rest

/-- The path of a target. -/
def path (text : List Char) : List Char :=
  let text := match text with
    | '/' :: rest => rest
    | '\\' :: rest => rest
    | _ => text
  (walk [] (segmentsFrom [] text)).flatMap fun segment => '/' :: segment

/-- What the text of an address asks for. -/
def ofText (text : String) : Url :=
  let rest := (clean text.toList).drop scheme.length
  let authority := rest.takeWhile (!endsAuthority ·)
  let rest := (rest.drop authority.length).takeWhile (· != '#')
  let before := rest.takeWhile (· != '?')
  let query := Percent.encode mayStandInQuery (rest.drop before.length)
  { authority := String.ofList authority
    target := String.ofList (path before ++ query) }

end Url

end CodeJudge.Http
