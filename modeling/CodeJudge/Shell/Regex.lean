import CodeJudge.Shell.Pattern

/-!
# Regular expressions

The expressions of `grep`, `sed` and `expr`, in their basic and their extended spelling. The two
differ only in how they are written: both are first made into the same marks, and the marks into an
expression. A match is the leftmost one; of those that begin there, each part in turn takes as much as
lets the rest match, and of alternatives the first that does is taken.
-/

namespace CodeJudge.Shell

/-- An expression. -/
inductive Regex
  /-- Matches without taking a character. -/
  | empty
  | glyph (glyph : Glyph)
  | sequence (first rest : Regex)
  | choice (left right : Regex)
  /-- Something taken at least so often, and at most so often if there is a bound. -/
  | repetition (body : Regex) (least : Nat) (most : Option Nat)
  | group (number : Nat) (body : Regex)
  /-- What a group matched, once more. -/
  | again (number : Nat)
  | atStart
  | atEnd
  deriving Repr

/-- A part of an expression as it is written. -/
inductive Mark
  | glyph (glyph : Glyph)
  | opening
  | closing
  | bar
  | times (least : Nat) (most : Option Nat)
  | caret
  | dollar
  | again (number : Nat)
  deriving DecidableEq, Repr

namespace Mark

/-- The number at the front of a text. -/
def number? (text : Octets) : Option Nat × Octets :=
  let digits := text.takeWhile Char.isDigit
  (if digits.isEmpty then none else Decimal.readNat? digits, text.drop digits.length)

/-- The bounds of a repetition, up to what closes them. -/
def bounds? (close : Octets) (text : Octets) : Option (Mark × Octets) :=
  let (least, rest) := number? text
  let (most, rest) : Option Nat × Octets := match rest with
    | ',' :: rest => number? rest
    | _ => (least, rest)
  if close.isPrefixOf rest then some (.times (least.getD 0) most, rest.drop close.length) else none

/-- The letters, the digits and the underscore. -/
def wordRanges : List (Char × Char) := [('a', 'z'), ('A', 'Z'), ('0', '9'), ('_', '_')]

/-- The blanks. -/
def blankRanges : List (Char × Char) := [(' ', ' '), ('\t', '\r')]

/-- What a backslash before a character means in both spellings. -/
def escaped (c : Char) : Mark :=
  match c with
  | 'n' => .glyph (.one '\n')
  | 't' => .glyph (.one '\t')
  | 'w' => .glyph (.set false wordRanges)
  | 'W' => .glyph (.set true wordRanges)
  | 's' => .glyph (.set false blankRanges)
  | 'S' => .glyph (.set true blankRanges)
  | c => if '1' ≤ c && c ≤ '9' then .again (c.toNat - 48) else .glyph (.one c)

/-- Takes the set that begins behind an opening bracket. -/
def set? (text : Octets) : Option (Mark × Octets) :=
  let (negated, inside) : Bool × Octets := match text with
    | '^' :: inside => (true, inside)
    | _ => (false, text)
  (Glyph.ranges [] (text.length + 1) (inside.map fun c => (c, false))).map fun (ranges, after) =>
    (.glyph (.set negated ranges), after.map (·.1))

/-- Whether the marks so far, latest first, leave the next one at the start of an alternative. -/
def isFirst : List Mark → Bool
  | [] | .opening :: _ | .bar :: _ => true
  | _ => false

/-- The marks of an expression in the basic spelling. The marks so far are held latest first. -/
def basic (held : List Mark) : Nat → Octets → List Mark
  | 0, _ => held.reverse
  | _, [] => held.reverse
  | fuel + 1, '\\' :: c :: rest =>
    match c with
    | '(' => basic (.opening :: held) fuel rest
    | ')' => basic (.closing :: held) fuel rest
    | '|' => basic (.bar :: held) fuel rest
    | '+' => basic (.times 1 none :: held) fuel rest
    | '?' => basic (.times 0 (some 1) :: held) fuel rest
    | '\x7b' =>
      match bounds? ['\\', '\x7d'] rest with
      | some (mark, rest) => basic (mark :: held) fuel rest
      | none => basic (.glyph (.one '\x7b') :: held) fuel rest
    | c => basic (escaped c :: held) fuel rest
  | fuel + 1, c :: rest =>
    match c with
    | '*' =>
      if isFirst held || held = [.caret] then basic (.glyph (.one '*') :: held) fuel rest
      else basic (.times 0 none :: held) fuel rest
    | '.' => basic (.glyph .any :: held) fuel rest
    | '^' => basic ((if isFirst held then .caret else .glyph (.one '^')) :: held) fuel rest
    | '$' =>
      let isLast := match rest with
        | [] | '\\' :: ')' :: _ | '\\' :: '|' :: _ => true
        | _ => false
      basic ((if isLast then .dollar else .glyph (.one '$')) :: held) fuel rest
    | '[' =>
      match set? rest with
      | some (mark, rest) => basic (mark :: held) fuel rest
      | none => basic (.glyph (.one '[') :: held) fuel rest
    | c => basic (.glyph (.one c) :: held) fuel rest

/-- The marks of an expression in the extended spelling. The marks so far are held latest first. -/
def extended (held : List Mark) : Nat → Octets → List Mark
  | 0, _ => held.reverse
  | _, [] => held.reverse
  | fuel + 1, '\\' :: c :: rest => extended (escaped c :: held) fuel rest
  | fuel + 1, c :: rest =>
    match c with
    | '(' => extended (.opening :: held) fuel rest
    | ')' => extended (.closing :: held) fuel rest
    | '|' => extended (.bar :: held) fuel rest
    | '+' => extended (.times 1 none :: held) fuel rest
    | '?' => extended (.times 0 (some 1) :: held) fuel rest
    | '*' => extended (.times 0 none :: held) fuel rest
    | '^' => extended (.caret :: held) fuel rest
    | '$' => extended (.dollar :: held) fuel rest
    | '.' => extended (.glyph .any :: held) fuel rest
    | '\x7b' =>
      match bounds? ['\x7d'] rest with
      | some (mark, rest) => extended (mark :: held) fuel rest
      | none => extended (.glyph (.one '\x7b') :: held) fuel rest
    | '[' =>
      match set? rest with
      | some (mark, rest) => extended (mark :: held) fuel rest
      | none => extended (.glyph (.one '[') :: held) fuel rest
    | c => extended (.glyph (.one c) :: held) fuel rest

end Mark

namespace Regex

/-- Puts repetitions on what stands before them. -/
def repeated (body : Regex) : List Mark → Regex × List Mark
  | .times least most :: rest => repeated (.repetition body least most) rest
  | marks => (body, marks)

mutual

/-- Takes alternatives, up to what closes them. `number` is that of the next group. -/
def choices (number : Nat) : Nat → List Mark → Regex × Nat × List Mark
  | 0, marks => (.empty, number, marks)
  | fuel + 1, marks =>
    let (left, number, rest) := parts number fuel marks
    match rest with
    | .bar :: rest =>
      let (right, number, rest) := choices number fuel rest
      (.choice left right, number, rest)
    | rest => (left, number, rest)

/-- Takes the parts of one alternative. -/
def parts (number : Nat) : Nat → List Mark → Regex × Nat × List Mark
  | 0, marks => (.empty, number, marks)
  | fuel + 1, marks =>
    let goOn (number : Nat) (part : Regex) (rest : List Mark) : Regex × Nat × List Mark :=
      let (part, rest) := repeated part rest
      let (others, number, rest) := parts number fuel rest
      (.sequence part others, number, rest)
    match marks with
    | [] | .bar :: _ | .closing :: _ => (.empty, number, marks)
    | .glyph kind :: rest => goOn number (.glyph kind) rest
    | .caret :: rest => goOn number .atStart rest
    | .dollar :: rest => goOn number .atEnd rest
    | .again earlier :: rest => goOn number (.again earlier) rest
    | .times least most :: rest => goOn number .empty (.times least most :: rest)
    | .opening :: rest =>
      let (body, next, rest) := choices (number + 1) fuel rest
      goOn next (.group number body) rest.tail

end

/-- The expression of marks. -/
def ofMarks (marks : List Mark) : Regex := (choices 1 (marks.length * 2 + 2) marks).1

/-- The expression that a text spells. -/
def ofText (isExtended : Bool) (text : Octets) : Regex :=
  ofMarks ((if isExtended then Mark.extended else Mark.basic) [] (text.length + 1) text)

/-- The expression that is nothing but a text. -/
def literal (text : Octets) : Regex :=
  text.foldr (fun c rest => .sequence (.glyph (.one c)) rest) .empty

/-- The expression that matches only whole texts. -/
def whole (regex : Regex) : Regex := .sequence .atStart (.sequence regex .atEnd)

/-- How far a match has come. -/
structure Place where
  /-- Whether the match began at the start of the text. -/
  fromStart : Bool
  /-- What has been taken, latest first. -/
  taken : Octets := []
  /-- How much that is. -/
  count : Nat := 0
  rest : Octets
  groups : List (Nat × Octets) := []

/-- The place behind the next character. -/
def Place.step? (place : Place) (kind : Glyph) : Option Place :=
  match place.rest with
  | c :: rest =>
    if kind.accepts c then
      some { place with taken := c :: place.taken, count := place.count + 1, rest }
    else none
  | [] => none

/-- Matches at a place, and then whatever `next` asks for. -/
def matchAt : Nat → Regex → Place → (Place → Option Place) → Option Place
  | 0, _, _, _ => none
  | fuel + 1, regex, place, next =>
    match regex with
    | .empty => next place
    | .glyph kind => (place.step? kind).bind next
    | .sequence first rest => matchAt fuel first place fun place => matchAt fuel rest place next
    | .choice left right =>
      match matchAt fuel left place next with
      | some found => some found
      | none => matchAt fuel right place next
    | .repetition body least most =>
      let further : Option Place :=
        if most = some 0 then none
        else
          matchAt fuel body place fun after =>
            if after.count = place.count then none
            else matchAt fuel (.repetition body (least - 1) (most.map (· - 1))) after next
      match further with
      | some found => some found
      | none =>
        if least = 0 then next place
        else matchAt fuel body place fun after =>
          if after.count = place.count then next after else none
    | .group number body =>
      matchAt fuel body place fun after =>
        let found := (after.taken.take (after.count - place.count)).reverse
        next { after with groups := (number, found) :: after.groups }
    | .again number =>
      let text := (place.groups.lookup number).getD []
      if text.isPrefixOf place.rest then
        next { place with
          taken := text.reverse ++ place.taken
          count := place.count + text.length
          rest := place.rest.drop text.length }
      else none
    | .atStart => if place.fromStart && place.taken.isEmpty then next place else none
    | .atEnd => if place.rest.isEmpty then next place else none

/-- How large an expression is. -/
def size : Regex → Nat
  | .sequence first rest => first.size + rest.size + 1
  | .choice left right => left.size + right.size + 1
  | .repetition body least _ => body.size + least + 1
  | .group _ body => body.size + 1
  | _ => 1

/-- A match at the front of a text. -/
def matchFront (regex : Regex) (fromStart : Bool) (text : Octets) : Option Place :=
  matchAt ((regex.size + 2) * (text.length + 2)) regex { fromStart, rest := text } some

/-- The leftmost match: what stands before it, and the place behind it. -/
def find (regex : Regex) (fromStart : Bool) (before : Octets) (text : Octets) :
    Option (Octets × Place) :=
  match regex.matchFront fromStart text with
  | some place => some (before.reverse, place)
  | none =>
    match text with
    | [] => none
    | c :: rest => find regex false (c :: before) rest

/-- Whether a text holds a match. -/
def isIn (regex : Regex) (text : Octets) : Bool := (regex.find true [] text).isSome

/-- All matches in a text, one behind another; empty ones do not count. -/
def all (regex : Regex) (fromStart : Bool) : Nat → Octets → List Octets
  | 0, _ => []
  | fuel + 1, text =>
    match regex.find fromStart [] text with
    | none => []
    | some (_, place) =>
      if place.taken.isEmpty then
        match place.rest with
        | [] => []
        | _ :: rest => all regex false fuel rest
      else place.taken.reverse :: all regex false fuel place.rest

/-- What replaces a match: an ampersand stands for the match, a number for a group of it. -/
def replacement (place : Place) : Octets → Octets
  | [] => []
  | '\\' :: 'n' :: rest => '\n' :: replacement place rest
  | '\\' :: 't' :: rest => '\t' :: replacement place rest
  | '\\' :: c :: rest =>
    if '1' ≤ c && c ≤ '9' then
      (place.groups.lookup (c.toNat - 48)).getD [] ++ replacement place rest
    else c :: replacement place rest
  | '&' :: rest => place.taken.reverse ++ replacement place rest
  | c :: rest => c :: replacement place rest

/-- Replaces the matches from the `first` on, all of them or only that one. Gives the text and how
many were replaced. An empty match right behind another match (`behind`) does not count. -/
def replace (regex : Regex) (template : Octets) (everywhere : Bool) (first : Nat)
    (fromStart behind : Bool) : Nat → Octets → Octets × Nat
  | 0, text => (text, 0)
  | fuel + 1, text =>
    match regex.find fromStart [] text with
    | none => (text, 0)
    | some (before, place) =>
      if behind && before.isEmpty && place.taken.isEmpty then
        match text with
        | [] => ([], 0)
        | c :: rest =>
          let (others, count) := replace regex template everywhere first false false fuel rest
          (c :: others, count)
      else
        let changes := first ≤ 1
        let shown := if changes then replacement place template else place.taken.reverse
        if changes && !everywhere then (before ++ shown ++ place.rest, 1)
        else
          let more := if changes then 1 else 0
          match place.taken, place.rest with
          | [], [] => (before ++ shown, more)
          | [], c :: rest =>
            let (others, count) := replace regex template everywhere (first - 1) false false fuel rest
            (before ++ shown ++ c :: others, count + more)
          | _, rest =>
            let (others, count) := replace regex template everywhere (first - 1) false true fuel rest
            (before ++ shown ++ others, count + more)

end Regex

end CodeJudge.Shell
