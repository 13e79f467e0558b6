import CodeJudge.Shell.Octets

/-!
# How far quotes and substitutions go

A substitution is kept as it was written, so it has to be known where it ends before it is read. What
is open at a character is a stack of contexts, the innermost first; each character is looked at once
and changes the stack. A parenthesis, brace or backquote thus closes a substitution only where
it is not quoted, not in a comment and not in a here document.

In a script a closing parenthesis may also end a pattern of a choice. Which words open and close
choices depends on where they stand; that is judged here by the words around them, and not by the
grammar. A script that the grammar refuses may thus be taken to end elsewhere.
-/

namespace CodeJudge.Shell

namespace Lexer

/-- Whether a character may begin a name. -/
def isNameStart (c : Char) : Bool := c.isAlpha || c = '_'

/-- Whether a character may go on a name. -/
def isNamePart (c : Char) : Bool := c.isAlphanum || c = '_'

/-- Whether a character ends a word. -/
def endsWord (c : Char) : Bool :=
  [' ', '\t', '\n', ';', '&', '|', '<', '>', '(', ')'].contains c

end Lexer

/-- A script that is open, as far as its end depends on what it has said. -/
structure Listing where
  /-- Whether a command may begin here. -/
  starts : Bool := true
  /-- The word at hand, latest character first. -/
  word : Octets := []
  /-- How many choices are open. -/
  choices : Nat := 0
  /-- The lines that end the here documents announced on this line, and whether tabs in front of them
  do not count. -/
  announced : List (Octets × Bool) := []
  deriving DecidableEq, Repr

namespace Listing

/-- The words behind which a command may begin. -/
def leading : List String := ["if", "then", "elif", "else", "while", "until", "do", "!", "\x7b"]

/-- The word at hand ends. -/
def endWord (listing : Listing) : Listing :=
  let name := Octets.toText listing.word.reverse
  let listing := { listing with word := [] }
  if name.isEmpty then listing
  else if listing.starts && name = "case" then
    { listing with starts := false, choices := listing.choices + 1 }
  else if listing.starts && name = "esac" then
    { listing with starts := false, choices := listing.choices - 1 }
  else
    { listing with
      starts := (listing.starts && leading.contains name) || (name = "in" && 0 < listing.choices) }

/-- The word at hand ends, and a command may begin. -/
def endCommand (listing : Listing) : Listing := { listing.endWord with starts := true }

/-- The word at hand goes on. -/
def push (listing : Listing) (c : Char) : Listing := { listing with word := c :: listing.word }

/-- The line that ends a here document, from what stands behind the operator. -/
def delimiter (text : Octets) : Octets × Bool :=
  let (text, stripTabs) := match text with
    | '-' :: rest => (rest, true)
    | _ => (text, false)
  let word := (text.dropWhile fun c => c = ' ' || c = '\t').takeWhile (!Lexer.endsWord ·)
  (word.filter fun c => c != '\'' && c != '"' && c != '\\', stripTabs)

end Listing

/-- What is open at a character. -/
inductive Context
  | script (listing : Listing)
  | arithmetic
  /-- A parenthesis inside an arithmetic expression. -/
  | parenthesis
  /-- A parameter in braces; quoted if its operand is, which stands between double quotes then. -/
  | brace (quoted : Bool)
  | double
  | single
  | backquote
  | comment
  /-- Here documents: the line at hand, latest character first, and how each of them ends. -/
  | documents (line : Octets) (announced : List (Octets × Bool))
  /-- Characters that have been looked at already. -/
  | pass (count : Nat)
  deriving DecidableEq, Repr

namespace Context

/-- Whether the parameter that a text begins with is to be cut by a pattern. -/
def cuts (text : Octets) : Bool :=
  let rest := match text with
    | c :: rest => if Lexer.isNamePart c then rest.dropWhile Lexer.isNamePart else rest
    | [] => []
  rest.head?.any fun c => c = '#' || c = '%'

/-- A parameter in braces, whose text follows. -/
def ofBrace (quoted : Bool) (text : Octets) : Context := .brace (quoted && !cuts text)

/-- What opens at a character, behind the context around it. -/
def opened (quoted : Bool) (c : Char) (rest : Octets) : List Context :=
  if c = '\\' then [.pass 1]
  else if c = '\x60' then [.backquote]
  else if c = '$' then
    match rest with
    | '(' :: '(' :: _ => [.pass 2, .arithmetic]
    | '(' :: _ => [.pass 1, .script {}]
    | '\x7b' :: text => [.pass 1, ofBrace quoted text]
    | _ => []
  else []

/-- What a script becomes with a character. -/
def ofScript (listing : Listing) (c : Char) (rest : Octets) : List Context :=
  match opened false c rest with
  | [] =>
    if c = '\'' then [.single, .script (listing.push c)]
    else if c = '"' then [.double, .script (listing.push c)]
    else if c = '(' then [.script {}, .script listing.endCommand]
    else if c = ')' then
      if listing.endWord.choices = 0 then [] else [.script listing.endCommand]
    else if c = '#' && listing.word.isEmpty then
      if rest.head? = some '\n' then [.script listing] else [.comment, .script listing]
    else if c = '\n' then
      if listing.announced.isEmpty then [.script listing.endCommand]
      else [.documents [] listing.announced, .script { listing.endCommand with announced := [] }]
    else if c = ' ' || c = '\t' || c = '>' then [.script listing.endWord]
    else if c = ';' || c = '&' || c = '|' then [.script listing.endCommand]
    else if c = '<' then
      match rest with
      | '<' :: text =>
        let announced := listing.announced ++ [Listing.delimiter text]
        [.pass 1, .script { listing.endWord with announced }]
      | _ => [.script listing.endWord]
    else [.script (listing.push c)]
  | contexts => contexts ++ [.script (listing.push c)]

/-- What here documents become with a character. -/
def ofDocuments (line : Octets) (announced : List (Octets × Bool)) (c : Char) : List Context :=
  if c = '\n' then
    match announced with
    | [] => []
    | (delimiter, stripTabs) :: others =>
      let line := if stripTabs then line.reverse.dropWhile (· = '\t') else line.reverse
      if line != delimiter then [.documents [] announced]
      else if others.isEmpty then [] else [.documents [] others]
  else [.documents (c :: line) announced]

/-- What a context becomes with a character: nothing, itself, or itself behind what has opened. -/
def step (context : Context) (c : Char) (rest : Octets) : List Context :=
  match context with
  | .script listing => ofScript listing c rest
  | .documents line announced => ofDocuments line announced c
  | .pass count => if count ≤ 1 then [] else [.pass (count - 1)]
  | .single => if c = '\'' then [] else [.single]
  | .comment => if rest.head? = some '\n' then [] else [.comment]
  | .backquote => if c = '\x60' then [] else if c = '\\' then [.pass 1, .backquote] else [.backquote]
  | .double => if c = '"' then [] else opened true c rest ++ [.double]
  | .brace quoted =>
    if c = '\x7d' then []
    else if c = '"' then [.double, .brace quoted]
    else if c = '\'' && !quoted then [.single, .brace quoted]
    else opened quoted c rest ++ [.brace quoted]
  | .arithmetic =>
    if c = '(' then [.parenthesis, .arithmetic]
    else if c = ')' then [if rest.head? = some ')' then .pass 1 else .arithmetic]
    else opened true c rest ++ [.arithmetic]
  | .parenthesis =>
    if c = ')' then []
    else if c = '(' then [.parenthesis, .parenthesis]
    else opened true c rest ++ [.parenthesis]

/-- Why a text must not end in a context; none if that says nothing of its own. -/
def complaint? : Context → Option String
  | .script _ => some "end of file unexpected (expecting \")\")"
  | .arithmetic | .parenthesis => some "Missing '))'"
  | .brace _ => some "Missing '\x7d'"
  | .double | .single => some "Unterminated quoted string"
  | .backquote => some "EOF in backquote substitution"
  | .comment | .documents _ _ | .pass _ => none

end Context

namespace Extent

/-- Takes the text up to the character that closes the last context that is open, and that character. -/
def walk : List Context → Octets → Octets → Except String (Octets × Octets)
  | [], held, text => .ok (held.reverse, text)
  | stack, _, [] => .error ((stack.findSome? Context.complaint?).getD "Unterminated quoted string")
  | context :: stack, held, c :: rest => walk (context.step c rest ++ stack) (c :: held) rest

/-- Takes the text that a context holds, behind what opened it. What closed it is passed over. -/
def inside (context : Context) (text : Octets) : Except String (Octets × Octets) :=
  (fun (held, rest) => (held.dropLast, rest)) <$> walk [context] [] text

end Extent

end CodeJudge.Shell
