import CodeJudge.Shell.Format
import CodeJudge.Shell.Regex
import CodeJudge.Shell.Tool

/-!
# Tools on lines

Tools that take their input line by line, or character by character. They read all of it before they
write.
-/

namespace CodeJudge.Shell

open Process (Action)

namespace Tools

/-- How lines are put into order. -/
structure Order where
  letters : Octets := []
  /-- The letters of the key; they stand in for the others where the key is compared. -/
  keyLetters : Octets := []
  /-- What separates fields; blanks before each field if nothing is named. -/
  separator : Option Char := none
  /-- The first field that counts, and the last one if it is named. -/
  key : Option (Nat × Option Nat) := none
  paths : List Octets := []

/-- The key that a text describes, and the letters behind it. -/
def keyOf (text : Octets) : (Nat × Option Nat) × Octets :=
  let number (text : Octets) : Nat × Octets :=
    let digits := text.takeWhile Char.isDigit
    let rest := text.drop digits.length
    (Arithmetic.ofDigits 10 digits, match rest with
      | '.' :: rest => rest.dropWhile Char.isDigit
      | rest => rest)
  let (first, rest) := number text
  match rest.dropWhile (· != ',') with
  | ',' :: after =>
    let (last, letters) := number after
    ((first, some last), rest.takeWhile (· != ',') ++ letters)
  | _ => ((first, none), rest)

/-- Takes the arguments of `sort` apart. -/
def orderOf (order : Order) : List Octets → Order
  | ['-', 'k'] :: text :: rest =>
    let (key, letters) := keyOf text
    orderOf { order with key := some key, keyLetters := order.keyLetters ++ letters } rest
  | ['-', 't'] :: (c :: _) :: rest => orderOf { order with separator := some c } rest
  | ('-' :: 'k' :: text) :: rest =>
    let (key, letters) := keyOf text
    orderOf { order with key := some key, keyLetters := order.keyLetters ++ letters } rest
  | ('-' :: 't' :: c :: _) :: rest => orderOf { order with separator := some c } rest
  | ('-' :: c :: letters) :: rest =>
    orderOf { order with letters := order.letters ++ c :: letters } rest
  | path :: rest => orderOf { order with paths := order.paths ++ [path] } rest
  | [] => order

/-- The fields of a line; without a separator, each field begins with the blanks before it. -/
def fieldsBy (separator : Option Char) (line : Octets) : List Octets :=
  match separator with
  | some c => line.splitOn c
  | none =>
    let isBlank (c : Char) : Bool := c = ' ' || c = '\t'
    let rec go (held : Octets) (inside : Bool) : Octets → List Octets
      | [] => [held.reverse]
      | c :: rest =>
        if isBlank c && inside then held.reverse :: go [c] false rest
        else go (c :: held) (!isBlank c) rest
    go [] false line

/-- The part of a line that its place in the order hangs on. -/
def Order.part (order : Order) (line : Octets) : Octets :=
  match order.key with
  | none => line
  | some (first, last) =>
    let fields := fieldsBy order.separator line
    let fields := match last with
      | some last => fields.take last
      | none => fields
    List.intercalate (order.separator.toList) (fields.drop (first - 1))

/-- The number at the front of a text. -/
def leading (text : Octets) : Int :=
  let trimmed := text.dropWhile fun c => c = ' ' || c = '\t'
  let (negative, rest) : Bool × Octets := match trimmed with
    | '-' :: rest => (true, rest)
    | _ => (false, trimmed)
  let n : Int := Arithmetic.ofDigits 10 (rest.takeWhile Char.isDigit)
  if negative then -n else n

/-- Lines put into order. -/
def sort (start : Start) : Action Nat := do
  let order := orderOf {} start.arguments
  let has (letter : Char) : Bool :=
    (if order.keyLetters.isEmpty then order.letters else order.keyLetters).contains letter
  let always (letter : Char) : Bool := order.letters.contains letter
  let (texts, status) ← contentsOf start
    (fun path fault => "cannot read: " ++ plainly path fault) [] 0 (orInput order.paths)
  if status != 0 then return 2 else
  let lines := texts.flatMap fun (_, text) => text.lines
  let keyed := lines.map fun line =>
    let part := order.part line
    let part := if has 'b' then part.dropWhile fun c => c = ' ' || c = '\t' else part
    (leading part, if has 'f' then part.map Char.toUpper else part, line)
  let rank (a b : Int × Octets × Octets) : Ordering :=
    if has 'n' then compareOfLessAndEq a.1 b.1
    else if a.2.1 < b.2.1 then .lt else if a.2.1 = b.2.1 then .eq else .gt
  let before (a b : Int × Octets × Octets) : Bool :=
    match if has 'r' then rank b a else rank a b with
    | .lt => true
    | .gt => false
    | .eq => always 's' || always 'u'
      || if always 'r' then b.2.2.noLater a.2.2 else a.2.2.noLater b.2.2
  let sorted := keyed.mergeSort before
  let kept := if always 'u' then
      sorted.foldr (fun line rest => match rest with
        | next :: others => if rank line next = .eq then line :: others else line :: rest
        | [] => [line]) []
    else sorted
  put 1 (kept.flatMap fun line => line.2.2 ++ ['\n'])
  return 0

/-- Repeated lines left out. -/
def uniq (start : Start) : Action Nat := do
  let (letters, paths) := options [] start.arguments
  let (texts, status) ← contentsOf start plainly [] 0 (orInput (paths.take 1))
  let groups : List (Nat × Octets) := (texts.flatMap fun (_, text) => text.lines).foldr
    (fun line rest => match rest with
      | (n, next) :: others => if line = next then (n + 1, next) :: others else (1, line) :: rest
      | [] => [(1, line)]) []
  let groups := groups.filter fun (n, _) =>
    (!letters.contains 'd' || n > 1) && (!letters.contains 'u' || n = 1)
  put 1 (groups.flatMap fun (n, line) =>
    if letters.contains 'c' then
      ({ width := 7 } : Format.Layout).pad false (Octets.ofInt n) ++ ' ' :: line ++ ['\n']
    else line ++ ['\n'])
  return status

/-- Counts of lines, words and bytes. -/
def wc (start : Start) : Action Nat := do
  let (letters, paths) := options [] start.arguments
  let wanted := if letters.isEmpty then ['l', 'w', 'c'] else
    ['l', 'w', 'c', 'm'].filter letters.contains
  let (texts, status) ← contentsOf start plainly [] 0 (orInput paths)
  let counts (text : Octets) : List Nat := wanted.map fun unit =>
    if unit = 'l' then text.count '\n'
    else if unit = 'w' then
      (text.foldl (fun (n, inside) c =>
        let blank := c = ' ' || ('\t' ≤ c && c ≤ '\r')
        (if !blank && !inside then n + 1 else n, !blank)) (0, false)).1
    else text.length
  let rows := texts.map fun (path, text) => (path, counts text)
  let rows := if rows.length > 1 then
      let total (i : Nat) : Nat := (rows.map fun row => row.2.getD i 0).foldr (· + ·) 0
      rows ++ [("total".toList, wanted.zipIdx.map fun (_, i) => total i)]
    else rows
  let width :=
    if wanted.length = 1 && rows.length ≤ 1 then 0
    else if paths.isEmpty || paths.contains ['-'] then 7
    else (rows.flatMap fun row => row.2.map fun (n : Nat) => (Octets.ofInt n).length).foldl max 1
  put 1 (rows.flatMap fun (path, ns) =>
    let cells := ns.map fun (n : Nat) => ({ width } : Format.Layout).pad false (Octets.ofInt n)
    let line := List.intercalate [' '] cells
    (if path = ['-'] && paths.isEmpty then line else line ++ ' ' :: path) ++ ['\n'])
  return status

/-- Lines that hold a match. -/
def grep (start : Start) : Action Nat := do
  let (letters, rest) := options [] start.arguments
  match rest with
  | [] => complain start "no pattern" 2
  | pattern :: paths =>
    let fold (text : Octets) : Octets :=
      if letters.contains 'i' then text.map fun c => if 'A' ≤ c && c ≤ 'Z' then c.toLower else c
      else text
    let regex := if letters.contains 'F' then Regex.literal (fold pattern)
      else .ofText (letters.contains 'E') (fold pattern)
    let regex := if letters.contains 'x' then regex.whole else regex
    let (texts, status) ← contentsOf start plainly [] 0 (orInput paths)
    let chosen (line : Octets) : Bool := regex.isIn (fold line) != letters.contains 'v'
    let several := texts.length > 1 && !letters.contains 'h'
    let found : List (Octets × List (Octets × Nat)) := texts.map fun (path, text) =>
      (path, (text.lines.zipIdx 1).filter fun entry => chosen entry.1)
    let any := found.any fun entry => !entry.2.isEmpty
    if letters.contains 'q' then return if any then 0 else max status 1
    else
      put 1 (found.flatMap fun (path, lines) =>
        let front : Octets := if several then path ++ [':'] else []
        if letters.contains 'c' then front ++ Octets.ofInt lines.length ++ ['\n']
        else if letters.contains 'l' then if lines.isEmpty then [] else path ++ ['\n']
        else lines.flatMap fun (line, n) =>
          let front := front ++ if letters.contains 'n' then Octets.ofInt n ++ [':'] else []
          if letters.contains 'o' then
            (regex.all true (line.length + 1) line).flatMap fun part => front ++ part ++ ['\n']
          else front ++ line ++ ['\n'])
      return if status > 0 then 2 else if any then 0 else 1

/-- The characters that a set of `tr` names. -/
def members : Nat → Octets → Octets
  | 0, _ => []
  | _, [] => []
  | fuel + 1, text =>
    let class? : List (String × Octets) :=
      [("[:upper:]", (List.range 26).map fun i => Char.ofNat (65 + i)),
        ("[:lower:]", (List.range 26).map fun i => Char.ofNat (97 + i)),
        ("[:alpha:]", (List.range 52).map fun i => Char.ofNat (if i < 26 then 65 + i else 71 + i)),
        ("[:alnum:]", (List.range 62).map fun i =>
          Char.ofNat (if i < 10 then 48 + i else if i < 36 then 55 + i else 61 + i)),
        ("[:punct:]", ((List.range 94).map fun i => Char.ofNat (33 + i)).filter (!·.isAlphanum)),
        ("[:blank:]", ['\t', ' ']),
        ("[:digit:]", (List.range 10).map fun i => Char.ofNat (48 + i)),
        ("[:space:]", ['\t', '\n', '\x0B', '\x0C', '\r', ' '])]
    match class?.find? fun entry => entry.1.toList.isPrefixOf text with
    | some (name, chars) => chars ++ members fuel (text.drop name.length)
    | none =>
      let (c, rest) : Char × Octets := match text with
        | '\\' :: e :: rest =>
          match Format.simple? e with
          | some char => (char, rest)
          | none =>
            if '0' ≤ e && e ≤ '7' then
              let (value, count) := Format.octal 0 3 (e :: rest)
              (Format.octet value, (e :: rest).drop count)
            else (e, rest)
        | c :: rest => (c, rest)
        | [] => (' ', [])
      match rest with
      | '-' :: upper :: rest =>
        (List.range (upper.toNat + 1 - c.toNat)).map (fun i => Char.ofNat (c.toNat + i))
          ++ members fuel rest
      | _ => c :: members fuel rest

/-- Passes the input on, block by block, through a change that may depend on the character written
last. -/
def passing (change : Option Char → Octets → Octets) (last : Option Char) : Nat → Action Unit
  | 0 => pure ()
  | bound + 1 => do
    match ← Action.read 0 block with
    | none => pure ()
    | some bytes =>
      if bytes.size = 0 then pure ()
      else
        let text := change last (Octets.ofArray bytes)
        put 1 text
        passing change (text.getLast?.or last) bound

/-- Leaves out characters of a set that stand right behind an equal one. -/
def squeeze (isSqueezed : Char → Bool) (last : Option Char) : Octets → Octets
  | [] => []
  | c :: rest =>
    if last = some c && isSqueezed c then squeeze isSqueezed last rest
    else c :: squeeze isSqueezed (some c) rest

/-- Replaces, deletes or squeezes characters. -/
def tr (start : Start) : Action Nat := do
  let (letters, sets) := options [] start.arguments
  let deletes := letters.contains 'd'
  let squeezes := letters.contains 's'
  let opposite := letters.contains 'c' || letters.contains 'C'
  match sets with
  | [] => confuse start "missing operand" 1
  | first :: more =>
    let former := members (first.length + 1) first
    let inFirst (c : Char) : Bool := former.contains c != opposite
    match more with
    | [] =>
      if deletes then
        passing (fun _ text => text.filter (!inFirst ·)) none start.bound
        return 0
      else if squeezes then
        passing (squeeze inFirst) none start.bound
        return 0
      else
        confuse start ("missing operand after " ++ quoted first
          ++ "\nTwo strings must be given when translating.") 1
    | second :: _ =>
      let latter := members (second.length + 1) second
      let final := latter.getLast?.getD ' '
      let replaced (c : Char) : Char :=
        if !inFirst c then c
        else if opposite then final
        else latter.getD (former.idxOf c) final
      let change (last : Option Char) (text : Octets) : Octets :=
        let text := if deletes then text.filter (!inFirst ·) else text.map replaced
        if squeezes then squeeze latter.contains last text else text
      passing change none start.bound
      return 0

/-- What `cut` is asked for. -/
structure Cutting where
  delimiter : Char := '\t'
  /-- Whether characters are counted, and not fields. -/
  characters : Bool := false
  ranges : Octets := []
  /-- Whether lines without the delimiter are left out. -/
  strict : Bool := false
  paths : List Octets := []

/-- Takes the arguments of `cut` apart. -/
def cutting (request : Cutting) : List Octets → Cutting
  | ['-', 'd'] :: (c :: _) :: rest => cutting { request with delimiter := c } rest
  | ('-' :: 'd' :: c :: _) :: rest => cutting { request with delimiter := c } rest
  | ['-', 's'] :: rest => cutting { request with strict := true } rest
  | ['-', unit] :: ranges :: rest => cutting { request with characters := unit != 'f', ranges } rest
  | ('-' :: unit :: ranges) :: rest => cutting { request with characters := unit != 'f', ranges } rest
  | path :: rest => cutting { request with paths := request.paths ++ [path] } rest
  | [] => request

/-- Fields or characters of each line. -/
def cut (start : Start) : Action Nat := do
  let request := cutting {} start.arguments
  let bounds := (request.ranges.splitOn ',').map fun range =>
    match range.splitOn '-' with
    | [one] => (Arithmetic.ofDigits 10 one, Arithmetic.ofDigits 10 one)
    | low :: high :: _ =>
      (if low.isEmpty then 1 else Arithmetic.ofDigits 10 low,
        if high.isEmpty then 1000000000 else Arithmetic.ofDigits 10 high)
    | [] => (0, 0)
  let wanted {α : Type} (parts : List α) : List α :=
    ((parts.zipIdx 1).filter fun (_, i) => bounds.any fun (low, high) => low ≤ i && i ≤ high).map (·.1)
  let (texts, status) ← contentsOf start plainly [] 0 (orInput request.paths)
  put 1 ((texts.flatMap fun (_, text) => text.lines).flatMap fun line =>
    if request.characters then wanted line ++ ['\n']
    else if line.contains request.delimiter then
      List.intercalate [request.delimiter] (wanted (line.splitOn request.delimiter)) ++ ['\n']
    else if request.strict then []
    else line ++ ['\n'])
  return status

end Tools

end CodeJudge.Shell
