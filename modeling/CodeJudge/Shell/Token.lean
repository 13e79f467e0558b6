import CodeJudge.Shell.Command
import CodeJudge.Shell.Extent

/-!
# Shell tokens

Taking a script apart into words and operators. Quotes, substitutions and comments are settled here;
which words are reserved depends on where they stand and is settled by the parser. The text of a here
document is taken out of the lines that follow its operator and put into the token.
-/

namespace CodeJudge.Shell

/-- A token of a script. -/
inductive Token
  | word (pieces : Word)
  /-- An operator. -/
  | operator (text : String)
  /-- A digit right before a redirection. -/
  | descriptor (number : Nat)
  /-- The text of a here document; it follows the operator and the word that ends the document. -/
  | document (text : Word)
  | newline
  | fault (message : String)
  deriving DecidableEq, Repr

/-- A token and the line on which it ends. -/
structure Placed where
  line : Nat
  token : Token
  deriving Repr

namespace Lexer

/-- Parameters whose name is one special character. -/
def isSpecial (c : Char) : Bool := ['@', '*', '#', '?', '-', '$', '!'].contains c || c.isDigit

/-- Takes a parameter in braces apart: its name, its operator and the operand. -/
def braced (inside : Octets) : Octets × Octets × Octets :=
  let ofRest (name rest : Octets) : Octets × Octets × Octets :=
    match rest with
    | ':' :: c :: operand => (name, [':', c], operand)
    | '#' :: '#' :: operand => (name, ['#', '#'], operand)
    | '%' :: '%' :: operand => (name, ['%', '%'], operand)
    | c :: operand => (name, [c], operand)
    | [] => (name, [], [])
  match inside with
  | '#' :: c :: rest =>
    if isNamePart c || isSpecial c then (c :: rest, ['l', 'e', 'n'], []) else ofRest ['#'] (c :: rest)
  | c :: rest =>
    if isNameStart c then
      ofRest (c :: rest.takeWhile isNamePart) (rest.dropWhile isNamePart)
    else if c.isDigit then
      ofRest (c :: rest.takeWhile Char.isDigit) (rest.dropWhile Char.isDigit)
    else ofRest [c] rest
  | [] => ([], [], [])

/-- Takes what follows a dollar sign on a line: the piece it makes, and the rest. -/
def dollar (line : Nat) (quoted : Bool) (text : Octets) : Except String (Piece × Octets) :=
  match text with
  | '(' :: '(' :: rest =>
    (fun (inside, rest) => (.arithmetic quoted inside.dropLast, rest)) <$> Extent.inside .arithmetic rest
  | '(' :: rest =>
    (fun (inside, rest) => (.output quoted line inside, rest)) <$> Extent.inside (.script {}) rest
  | '\x7b' :: rest => do
    let (inside, rest) ← Extent.inside (Context.ofBrace quoted rest) rest
    let (name, operator, operand) := braced inside
    return (.parameter quoted name operator operand, rest)
  | c :: rest =>
    if isNameStart c then
      .ok (.parameter quoted (c :: rest.takeWhile isNamePart) [] [], rest.dropWhile isNamePart)
    else if isSpecial c then .ok (.parameter quoted [c] [] [], rest)
    else .ok (.plain quoted ['$'], c :: rest)
  | [] => .ok (.plain quoted ['$'], [])

/-- Takes the backslashes out of a command in backquotes, as far as they have a meaning there. -/
def unquoteBack (quoted : Bool) : Octets → Octets
  | '\\' :: c :: rest =>
    if c = '\x60' || c = '\\' || c = '$' || (quoted && c = '"') then c :: unquoteBack quoted rest
    else '\\' :: c :: unquoteBack quoted rest
  | c :: rest => c :: unquoteBack quoted rest
  | [] => []

/-- Takes a command in backquotes, behind the first of them. -/
def backquoted (quoted : Bool) (text : Octets) : Except String (Piece × Octets) :=
  (fun (inside, rest) => (.output quoted 0 (unquoteBack quoted inside), rest)) <$>
    Extent.inside .backquote text

/-- How many lines a piece goes on for. -/
def linesOf : Piece → Nat
  | .plain _ text | .parameter _ _ _ text | .output _ _ text | .arithmetic _ text => text.count '\n'

/-- The places where text is quoted as between double quotes. They differ in what a double quote
means. -/
inductive Place
  /-- Between double quotes, up to the closing one. -/
  | quotes
  /-- All of a here document, in which it is a character like others. -/
  | document
  /-- All of the operand of a quoted parameter, where it is left out. -/
  | operand
  /-- All of an arithmetic expression, in which it is a character like others. -/
  | expression
  deriving DecidableEq, Repr

/-- Whether a backslash in front of a character is left out. -/
def Place.escapes (place : Place) (c : Char) : Bool :=
  c = '$' || c = '\x60' || c = '\\' || (c = '"' && place != .document) || (c = '\x7d' && place = .operand)

/-- Takes text that is quoted as between double quotes. It begins on a line. -/
def doubleQuoted (place : Place) (line : Nat) (pieces : Word) :
    Nat → Octets → Except String (Word × Octets)
  | 0, _ => .error "Unterminated quoted string"
  | _, [] =>
    if place = .quotes then .error "Unterminated quoted string" else .ok (pieces.reverse, [])
  | fuel + 1, c :: rest =>
    if c = '"' && place = .quotes then .ok (pieces.reverse, rest)
    else if c = '"' && place = .operand then doubleQuoted place line pieces fuel rest
    else if c = '\\' then
      match rest with
      | '\n' :: rest => doubleQuoted place (line + 1) pieces fuel rest
      | e :: after =>
        if place.escapes e then doubleQuoted place line (.plain true [e] :: pieces) fuel after
        else doubleQuoted place line (.plain true ['\\'] :: pieces) fuel rest
      | [] => doubleQuoted place line (.plain true ['\\'] :: pieces) fuel []
    else if c = '$' then do
      let (piece, rest) ← dollar line true rest
      doubleQuoted place (line + linesOf piece) (piece :: pieces) fuel rest
    else if c = '\x60' then do
      let (piece, rest) ← backquoted true rest
      doubleQuoted place (line + linesOf piece) (piece :: pieces) fuel rest
    else
      let isPlain (c : Char) := c != '"' && c != '\\' && c != '$' && c != '\x60'
      let text := c :: if isPlain c then rest.takeWhile isPlain else []
      doubleQuoted place (line + text.count '\n') (.plain true text :: pieces) fuel
        (if isPlain c then rest.dropWhile isPlain else rest)

/-- Takes a word, or (`whole`) all of the text as one word, blanks and operators included. It begins on a
line. -/
def word (whole : Bool) (line : Nat) (pieces : Word) : Nat → Octets → Except String (Word × Octets)
  | 0, _ => .error "Unterminated quoted string"
  | _, [] => .ok (pieces.reverse, [])
  | fuel + 1, c :: rest =>
    if endsWord c && !whole then .ok (pieces.reverse, c :: rest)
    else if c = '\\' then
      match rest with
      | '\n' :: rest => word whole (line + 1) pieces fuel rest
      | e :: rest => word whole line (.plain true [e] :: pieces) fuel rest
      | [] => .ok ((.plain true ['\\'] :: pieces).reverse, [])
    else if c = '\'' then
      match rest.dropWhile (· != '\'') with
      | [] => .error "Unterminated quoted string"
      | _ :: after =>
        let text := rest.takeWhile (· != '\'')
        word whole (line + text.count '\n') (.plain true text :: pieces) fuel after
    else if c = '"' then do
      let (inside, rest) ← doubleQuoted .quotes line [] (rest.length + 1) rest
      word whole (line + (inside.map linesOf).sum) (.plain true [] :: inside.reverse ++ pieces) fuel rest
    else if c = '$' then do
      let (piece, rest) ← dollar line false rest
      word whole (line + linesOf piece) (piece :: pieces) fuel rest
    else if c = '\x60' then do
      let (piece, rest) ← backquoted false rest
      word whole (line + linesOf piece) (piece :: pieces) fuel rest
    else
      let isPlain (c : Char) :=
        (whole || !endsWord c) && c != '"' && c != '\\' && c != '$' && c != '\x60' && c != '\''
      word whole line (.plain false (c :: rest.takeWhile isPlain) :: pieces) fuel (rest.dropWhile isPlain)

/-- The operators, longer ones before their beginnings. -/
def operators : List String :=
  ["&&", "||", ";;", "<<-", "<<", ">>", "<&", ">&", "<>", ">|", "&", "|", ";", "<", ">", "(", ")"]

/-- Takes an operator. -/
def operator? (text : Octets) : Option (String × Octets) :=
  (operators.find? fun operator => operator.toList.isPrefixOf text).map fun operator =>
    (operator, text.drop operator.length)

/-- The text of a word without its quotes, and whether any of it was quoted. -/
def bare (pieces : Word) : Octets × Bool :=
  pieces.foldl (fun (text, quoted) piece =>
    match piece with
    | .plain q inside => (text ++ inside, quoted || q)
    | .parameter q name _ _ => (text ++ '$' :: name, quoted || q)
    | .output q _ _ | .arithmetic q _ => (text, quoted || q)) ([], false)

/-- Takes the lines of a here document, up to the line that is its delimiter. -/
def document (delimiter : Octets) (stripTabs : Bool) (held : Octets) :
    Nat → Octets → Octets × Octets × Nat
  | 0, text => (held, text, 0)
  | fuel + 1, text =>
    if text.isEmpty then (held, [], 0)
    else
      let line := text.takeWhile (· != '\n')
      let shown := if stripTabs then line.dropWhile (· = '\t') else line
      match text.dropWhile (· != '\n') with
      | [] => if shown = delimiter then (held, [], 0) else (held ++ shown, [], 0)
      | _ :: rest =>
        if shown = delimiter then (held, rest, 1)
        else
          let (all, rest, lines) := document delimiter stripTabs (held ++ shown ++ ['\n']) fuel rest
          (all, rest, lines + 1)

/-- A here document that was announced on the line at hand. -/
structure Announced where
  delimiter : Octets
  quoted : Bool
  stripTabs : Bool

/-- Takes the documents announced on a line out of the text behind it, which begins on a line. -/
def documents (line : Nat) : List Announced → Octets → Except String (List Word × Octets × Nat)
  | [], text => .ok ([], text, 0)
  | announced :: more, text => do
    let (all, rest, lines) := document announced.delimiter announced.stripTabs [] (text.length + 1) text
    let pieces ←
      if announced.quoted then pure [Piece.plain true all]
      else (fun read : Word × Octets => read.1) <$> doubleQuoted .document line [] (all.length + 1) all
    let (others, rest, count) ← documents (line + lines) more rest
    return (pieces :: others, rest, lines + count)

/-- The text of every token, line by line. `waiting` holds the here documents announced on the line
at hand, latest first; `heralded` tells that the next word is the delimiter of one. -/
def scan (line : Nat) (waiting : List Announced) (heralded : Option Bool) :
    Nat → Octets → List Placed
  | 0, _ => []
  | _, [] => []
  | fuel + 1, c :: rest =>
    if c = ' ' || c = '\t' then scan line waiting heralded fuel rest
    else if c = '\\' && rest.head? = some '\n' then scan (line + 1) waiting heralded fuel rest.tail
    else if c = '#' then scan line waiting heralded fuel (rest.dropWhile (· != '\n'))
    else if c = '\n' then
      match documents (line + 1) waiting.reverse rest with
      | .error message => [⟨line, .fault message⟩]
      | .ok (texts, rest, lines) =>
        texts.map (fun text => (⟨line, .document text⟩ : Placed))
          ++ ⟨line, .newline⟩ :: scan (line + 1 + lines) [] none fuel rest
    else
      match operator? (c :: rest) with
      | some (operator, rest) =>
        let heralded :=
          if operator = "<<" then some false else if operator = "<<-" then some true else none
        ⟨line, .operator operator⟩ :: scan line waiting heralded fuel rest
      | none =>
        let startsRedirection := match rest with
          | '<' :: _ | '>' :: _ => true
          | _ => false
        if c.isDigit && startsRedirection then
          ⟨line, .descriptor (c.toNat - 48)⟩ :: scan line waiting heralded fuel rest
        else
          match word false line [] (rest.length + 2) (c :: rest) with
          | .error message => [⟨line + (c :: rest).count '\n', .fault message⟩]
          | .ok (pieces, after) =>
            let taken := (c :: rest).take (rest.length + 1 - after.length)
            let waiting := match heralded with
              | some stripTabs =>
                let (delimiter, quoted) := bare pieces
                ⟨delimiter, quoted, stripTabs⟩ :: waiting
              | none => waiting
            let line := line + taken.count '\n'
            ⟨line, .word pieces⟩ :: scan line waiting none fuel after

/-- The tokens of a script that begins on a line. -/
def tokens (line : Nat) (text : Octets) : List Placed := scan line [] none (text.length + 1) text

end Lexer

end CodeJudge.Shell
