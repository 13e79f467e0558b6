import CodeJudge.Shell.Arithmetic
import CodeJudge.Shell.Real

/-!
# Formatted output

What `echo` and `printf` make of their arguments: escapes, and conversions with width and precision.
-/

namespace CodeJudge.Shell.Format

/-- The character of a simple escape. -/
def simple? : Char → Option Char
  | 'a' => some '\x07'
  | 'b' => some '\x08'
  | 'f' => some '\x0C'
  | 'n' => some '\n'
  | 'r' => some '\r'
  | 't' => some '\t'
  | 'v' => some '\x0B'
  | 'e' => some '\x1B'
  | '\\' => some '\\'
  | _ => none

/-- Takes up to so many octal digits: their value and how many there were. -/
def octal (value : Nat) : Nat → Octets → Nat × Nat
  | 0, _ => (value, 0)
  | _, [] => (value, 0)
  | limit + 1, c :: rest =>
    if '0' ≤ c && c ≤ '7' then
      let (value, count) := octal (value * 8 + (c.toNat - 48)) limit rest
      (value, count + 1)
    else (value, 0)

/-- The octet of a number, its higher bits left out. -/
def octet (n : Nat) : Char := Char.ofNat (n % 256)

/-- Text with its escapes carried out, and whether it asked to stop there. `zeroed` is the form in
which an octal escape begins with a zero of its own. -/
def unescape (zeroed : Bool) (held : Octets) : Nat → Octets → Octets × Bool
  | 0, _ => (held.reverse, false)
  | _, [] => (held.reverse, false)
  | fuel + 1, c :: rest =>
    if c = '\\' then
      match rest with
      | [] => (('\\' :: held).reverse, false)
      | e :: after =>
        if e = 'c' then (held.reverse, true)
        else
          match simple? e with
          | some char => unescape zeroed (char :: held) fuel after
          | none =>
            if zeroed && e = '0' then
              let (value, count) := octal 0 3 after
              unescape zeroed (octet value :: held) fuel (after.drop count)
            else if '0' ≤ e && e ≤ '7' then
              let (value, count) := octal 0 3 rest
              unescape zeroed (octet value :: held) fuel (rest.drop count)
            else unescape zeroed (e :: '\\' :: held) fuel after
    else unescape zeroed (c :: held) fuel rest

/-- What `echo` writes. -/
def echo (arguments : List Octets) : Octets :=
  let (newline, words) : Bool × List Octets := match arguments with
    | ['-', 'n'] :: words => (false, words)
    | _ => (true, arguments)
  let text := List.intercalate [' '] words
  let (shown, stopped) := unescape true [] (text.length + 1) text
  if newline && !stopped then shown ++ ['\n'] else shown

/-- What `echo` writes when escapes are carried out only if that is asked for. -/
def echoPlain (escapes newline : Bool) : List Octets → Octets
  | ('-' :: c :: letters) :: words =>
    let letters := c :: letters
    if letters.all fun c => c = 'n' || c = 'e' || c = 'E' then
      let escapes := match (letters.filter (· != 'n')).getLast? with
        | some c => c = 'e'
        | none => escapes
      echoPlain escapes (newline && !letters.contains 'n') words
    else shown escapes newline (('-' :: letters) :: words)
  | words => shown escapes newline words
where
  /-- The words with blanks between them. -/
  shown (escapes newline : Bool) (words : List Octets) : Octets :=
    let text := List.intercalate [' '] words
    let (text, stopped) := if escapes then unescape true [] (text.length + 1) text else (text, false)
    if newline && !stopped then text ++ ['\n'] else text

/-- How a conversion is laid out. -/
structure Layout where
  flags : Octets := []
  width : Nat := 0
  precision : Option Nat := none

/-- Brings a text to the width of a layout. -/
def Layout.pad (layout : Layout) (numeric : Bool) (text : Octets) : Octets :=
  let missing := layout.width - text.length
  if missing = 0 then text
  else if layout.flags.contains '-' then text ++ List.replicate missing ' '
  else if numeric && layout.flags.contains '0' && layout.precision.isNone then
    match text with
    | '-' :: digits => '-' :: List.replicate missing '0' ++ digits
    | _ => List.replicate missing '0' ++ text
  else List.replicate missing ' ' ++ text

/-- The digits of a number in a base. -/
def digits (base : Nat) (upper : Bool) (n : Nat) : Octets :=
  (Nat.toDigits base n).map fun c => if upper then c.toUpper else c

/-- The sign that stands before a number. -/
def Layout.sign (layout : Layout) (negative : Bool) : Octets :=
  if negative then ['-']
  else if layout.flags.contains '+' then ['+']
  else if layout.flags.contains ' ' then [' ']
  else []

/-- The text of a number under a conversion. -/
def Layout.integer (layout : Layout) (conversion : Char) (n : Int) : Octets :=
  let unsigned := if n < 0 then (n + 18446744073709551616).toNat else n.toNat
  let body : Octets := match conversion with
    | 'o' => digits 8 false unsigned
    | 'x' => digits 16 false unsigned
    | 'X' => digits 16 true unsigned
    | 'u' => digits 10 false unsigned
    | _ => digits 10 false n.natAbs
  let body := List.replicate (layout.precision.getD 0 - body.length) '0' ++ body
  let front : Octets :=
    if conversion = 'd' || conversion = 'i' then layout.sign (n < 0)
    else if !layout.flags.contains '#' || n = 0 then []
    else match conversion with
      | 'x' => ['0', 'x']
      | 'X' => ['0', 'X']
      | 'o' => ['0']
      | _ => []
  layout.pad true (front ++ body)

/-- The text of a number with a fraction under a conversion. -/
def Layout.real (layout : Layout) (conversion : Char) (x : Float) : Octets :=
  let places := layout.precision.getD 6
  let upper (text : Octets) : Octets := if conversion.isUpper then text.map Char.toUpper else text
  match Real.Parts.ofFloat x with
  | .notANumber => { layout with precision := some 0 }.pad false (upper ['n', 'a', 'n'])
  | .infinite negative =>
    { layout with precision := some 0 }.pad false (upper (layout.sign negative ++ ['i', 'n', 'f']))
  | .finite negative numerator denominator =>
    let body := match conversion.toLower with
      | 'f' => Real.fixed places numerator denominator
      | 'e' => Real.scientific places numerator denominator
      | _ => Real.general places numerator denominator
    { layout with precision := none }.pad true (upper (layout.sign negative ++ body))

/-- What is wrong with a format or with an argument. -/
inductive Complaint
  | notNumber (text : Octets)
  /-- Only the front of an argument is a number. -/
  | partly (text : Octets)
  | outOfRange (text : Octets)
  /-- A conversion that is not known; nothing behind it is written. -/
  | badConversion (text : Octets)
  | noConversion
  deriving DecidableEq, Repr

/-- Whether a complaint is about the format itself. -/
def Complaint.isFinal : Complaint → Bool
  | badConversion _ | noConversion => true
  | _ => false

/-- The words of a complaint, in the shell (`inner`) or from the tool. -/
def Complaint.message (inner : Bool) : Complaint → String
  | notNumber text =>
    if inner then text.toText ++ ": expected numeric value"
    else "'" ++ text.toText ++ "': expected a numeric value"
  | partly text =>
    if inner then text.toText ++ ": not completely converted"
    else "'" ++ text.toText ++ "': value not completely converted"
  | outOfRange text =>
    (if inner then text.toText else "'" ++ text.toText ++ "'") ++ ": Numerical result out of range"
  | badConversion text =>
    text.toText ++ if inner then ": invalid directive" else ": invalid conversion specification"
  | noConversion => "missing format character"

/-- The number that an argument stands for: after a quote the number of the next character. -/
def argument (text : Octets) : Int × Option Complaint :=
  match text with
  | '\'' :: rest | '"' :: rest => ((rest.head?.map Char.toNat).getD 0, none)
  | [] => (0, none)
  | _ =>
    let trimmed := Arithmetic.skip text
    let (negative, digits) : Bool × Octets := match trimmed with
      | '-' :: rest => (true, rest)
      | '+' :: rest => (false, rest)
      | _ => (false, trimmed)
    if (digits.headD ' ').isDigit then
      let (value, rest) := Arithmetic.literal digits
      let value := if negative then -value else value
      let kept := Arithmetic.clamp value
      (kept, if !rest.isEmpty then some (.partly text)
        else if kept != value then some (.outOfRange text) else none)
    else (0, some (.notNumber text))

/-- The number with a fraction that an argument stands for. -/
def realArgument (text : Octets) : Float × Option Complaint :=
  match text with
  | '\'' :: rest | '"' :: rest => (Float.ofNat ((rest.head?.map Char.toNat).getD 0), none)
  | [] => (0.0, none)
  | _ =>
    match Real.read? text with
    | some (x, rest) => (x, if rest.isEmpty then none else some (.partly text))
    | none => (0.0, some (.notNumber text))

/-- What has been written, latest character first, and what was wrong. -/
structure Written where
  text : Octets := []
  /-- The complaints, latest first. -/
  complaints : List Complaint := []
  stopped : Bool := false

/-- Adds text. -/
def Written.add (written : Written) (text : Octets) : Written :=
  { written with text := text.reverse ++ written.text }

/-- Adds a complaint, if there is one. -/
def Written.complain (written : Written) : Option Complaint → Written
  | none => written
  | some complaint => { written with complaints := complaint :: written.complaints }

/-- Takes the number in front of a layout's next part, or the next argument for a star. -/
def measure (arguments : List Octets) (text : Octets) : Option Int × List Octets × Octets :=
  match text with
  | '*' :: rest =>
    match arguments with
    | value :: arguments => (some (argument value).1, arguments, rest)
    | [] => (some 0, [], rest)
  | _ =>
    let number := text.takeWhile Char.isDigit
    if number.isEmpty then (none, arguments, text)
    else (some (Arithmetic.ofDigits 10 number), arguments, text.drop number.length)

/-- Carries out one conversion on a value. -/
def convert (written : Written) (layout : Layout) (conversion : Char) (spelled value : Octets) :
    Written :=
  match conversion with
  | 's' =>
    written.add (layout.pad false (match layout.precision with
      | some n => value.take n
      | none => value))
  | 'b' =>
    let (text, stopped) := unescape true [] (value.length + 1) value
    { written.add (if stopped then text else layout.pad false text) with stopped }
  | 'c' => written.add (layout.pad false (value.take 1))
  | _ =>
    if ['d', 'i', 'o', 'u', 'x', 'X'].contains conversion then
      let (n, complaint) := argument value
      (written.add (layout.integer conversion n)).complain complaint
    else if ['f', 'F', 'e', 'E', 'g', 'G'].contains conversion then
      let (x, complaint) := realArgument value
      (written.add (layout.real conversion x)).complain complaint
    else { written.complain (some (.badConversion spelled)) with stopped := true }

/-- Carries out a format once: what it writes and the arguments left over. -/
def once (written : Written) (arguments : List Octets) : Nat → Octets → Written × List Octets
  | 0, _ => (written, arguments)
  | _, [] => (written, arguments)
  | fuel + 1, c :: rest =>
    if c = '%' then
      match rest with
      | '%' :: rest => once (written.add ['%']) arguments fuel rest
      | _ =>
        let flags := rest.takeWhile fun c => ['-', '+', ' ', '0', '#'].contains c
        let (width, arguments, after) := measure arguments (rest.drop flags.length)
        let (precision, arguments, after) : Option Int × List Octets × Octets := match after with
          | '.' :: after =>
            let (precision, arguments, after) := measure arguments after
            (some (precision.getD 0), arguments, after)
          | _ => (none, arguments, after)
        let flags := if width.any (· < 0) then '-' :: flags else flags
        let layout : Layout :=
          { flags, width := (width.getD 0).natAbs, precision := precision.map Int.toNat }
        match after with
        | [] => ({ written.complain (some .noConversion) with stopped := true }, [])
        | conversion :: after =>
          let spelled := '%' :: rest.take (rest.length - after.length)
          let written := convert written layout conversion spelled (arguments.headD [])
          if written.stopped then (written, []) else once written arguments.tail fuel after
    else if c = '\\' then
      match rest with
      | [] => (written.add ['\\'], arguments)
      | e :: after =>
        match simple? e with
        | some char => once (written.add [char]) arguments fuel after
        | none =>
          if '0' ≤ e && e ≤ '7' then
            let (value, count) := octal 0 3 rest
            once (written.add [octet value]) arguments fuel (rest.drop count)
          else once (written.add ['\\', e]) arguments fuel after
    else once (written.add [c]) arguments fuel rest

/-- Carries out a format again and again until the arguments are used up. -/
def repeated (format : Octets) (written : Written) : Nat → List Octets → Written
  | 0, _ => written
  | fuel + 1, arguments =>
    let (written, left) := once written arguments (format.length + 1) format
    if left.isEmpty || written.stopped || left.length ≥ arguments.length then written
    else repeated format written fuel left

/-- What `printf` writes. -/
def printf (format : Octets) (arguments : List Octets) : Written :=
  let written := repeated format {} (arguments.length + 1) arguments
  { written with text := written.text.reverse, complaints := written.complaints.reverse }

end CodeJudge.Shell.Format
