import CodeJudge.Shell.Token

/-!
# Shell grammar

From tokens to commands. A script is read line by line: each line, with what it takes of the lines
behind it, is one command to be carried out before the next is read. So a script that goes wrong on
some line has done by then what stands before it.
-/

namespace CodeJudge.Shell.Parser

/-- Reads something from the front of the tokens. -/
abbrev Reader (α : Type) := List Placed → Except Fault (α × List Placed)

/-- The words with a meaning of their own where a command may begin. -/
def reserved : List String :=
  ["if", "then", "elif", "else", "fi", "while", "until", "do", "done", "for", "in", "case", "esac",
    "\x7b", "\x7d", "!"]

/-- The word that a token is, when none of it is quoted or substituted. -/
def keyword? : Token → Option String
  | .word [.plain false text] =>
    let name := text.toText
    if reserved.contains name then some name else none
  | _ => none

/-- Whether the tokens begin with a keyword. -/
def startsWith (name : String) : List Placed → Bool
  | placed :: _ => keyword? placed.token == some name
  | [] => false

/-- Whether the tokens begin with an operator. -/
def startsOperator (text : String) : List Placed → Bool
  | placed :: _ => placed.token == .operator text
  | [] => false

/-- How a token is named in a message. -/
def shown (token : Token) : String :=
  match token with
  | .word _ =>
    match keyword? token with
    | some name => "\"" ++ name ++ "\""
    | none => "word"
  | .operator text =>
    if ["<", ">", "<<", "<<-", ">>", "<&", ">&", "<>", ">|"].contains text then "redirection"
    else "\"" ++ text ++ "\""
  | .descriptor _ => "redirection"
  | .document _ => "redirection"
  | .newline => "newline"
  | .fault message => message

/-- The line at which the tokens end. -/
def lastLine (line : Nat) (tokens : List Placed) : Nat := (tokens.getLast?.map (·.line)).getD line

/-- The tokens cannot go on like this. A script that ends too early has its fault on no line yet. -/
def refuse {α : Type} (expecting : Option String) : Reader α
  | [] => .error ⟨0, "Syntax error: end of file unexpected" ++ more expecting⟩
  | placed :: _ =>
    match placed.token with
    | .fault message => .error ⟨placed.line, "Syntax error: " ++ message⟩
    | token => .error ⟨placed.line, "Syntax error: " ++ shown token ++ " unexpected" ++ more expecting⟩
where
  /-- What was expected instead. -/
  more : Option String → String
    | some name => " (expecting " ++ (if name = "word" then name else "\"" ++ name ++ "\"") ++ ")"
    | none => ""

/-- Passes over newlines. -/
def skipNewlines : List Placed → List Placed
  | placed :: rest => if placed.token == .newline then skipNewlines rest else placed :: rest
  | [] => []

/-- Takes a keyword that has to stand here. -/
def expect (name : String) : Reader Unit := fun tokens =>
  let tokens := skipNewlines tokens
  match tokens with
  | placed :: rest =>
    if keyword? placed.token == some name || placed.token == .operator name then .ok ((), rest)
    else refuse (some name) tokens
  | [] => refuse (some name) []

/-- Whether a list of commands ends here. -/
def atEnd : List Placed → Bool
  | [] => true
  | placed :: _ =>
    match placed.token with
    | .operator text => text = ")" || text = ";;"
    | token =>
      match keyword? token with
      | some name => ["then", "elif", "else", "fi", "do", "done", "esac", "\x7d"].contains name
      | none => false

/-- Whether a text can be the name of a variable. -/
def isName : Octets → Bool
  | [] => false
  | c :: rest => Lexer.isNameStart c && rest.all Lexer.isNamePart

/-- Splits a word that is an assignment into the name and the value. -/
def assignment? : Word → Option (Octets × Word)
  | .plain false text :: rest =>
    match text.dropWhile Lexer.isNamePart with
    | '=' :: value =>
      match text.takeWhile Lexer.isNamePart with
      | [] => none
      | c :: name =>
        if Lexer.isNameStart c then
          some (c :: name, if value.isEmpty then rest else .plain false value :: rest)
        else none
    | _ => none
  | _ => none

/-- Takes the next here document out of the tokens. -/
def takeDocument : List Placed → Word × List Placed
  | [] => ([], [])
  | placed :: rest =>
    match placed.token with
    | .document text => (text, rest)
    | _ =>
      let (text, others) := takeDocument rest
      (text, placed :: others)

/-- The direction of a redirection operator, and the descriptor it is for if none is named. -/
def direction? : String → Option (Direction × Nat)
  | "<" => some (.input, 0)
  | "<>" => some (.input, 0)
  | ">" => some (.output, 1)
  | ">|" => some (.overwrite, 1)
  | ">>" => some (.append, 1)
  | "<&" => some (.inputFrom, 0)
  | ">&" => some (.outputTo, 1)
  | "<<" => some (.here, 0)
  | "<<-" => some (.here, 0)
  | _ => none

/-- Takes a redirection, if one stands here. -/
def redirection? (tokens : List Placed) : Except Fault (Option (Redirection × List Placed)) :=
  let (named, tokens) : Option Nat × List Placed :=
    match tokens with
    | ⟨_, .descriptor number⟩ :: rest => (some number, rest)
    | _ => (none, tokens)
  match tokens with
  | ⟨_, .operator text⟩ :: rest =>
    match direction? text with
    | none => .ok none
    | some (direction, usual) =>
      match rest with
      | ⟨_, .word target⟩ :: rest =>
        let (target, rest) := if direction = .here then takeDocument rest else (target, rest)
        .ok (some (⟨named.getD usual, direction, target⟩, rest))
      | rest => (fun (_ : Unit × List Placed) => none) <$> refuse none rest
  | _ => .ok none

/-- Takes redirections as long as they stand here. -/
def redirections (held : List Redirection) : Nat → Reader (List Redirection)
  | 0, tokens => .ok (held.reverse, tokens)
  | fuel + 1, tokens => do
    match ← redirection? tokens with
    | some (redirection, rest) => redirections (redirection :: held) fuel rest
    | none => return (held.reverse, tokens)

/-- Takes the words, assignments and redirections of a simple command. -/
def simple (line : Nat) (assignments : List (Octets × Word)) (words : List Word)
    (held : List Redirection) : Nat → Reader Command
  | 0, tokens => .ok (.nothing, tokens)
  | fuel + 1, tokens => do
    match ← redirection? tokens with
    | some (redirection, rest) => simple line assignments words (redirection :: held) fuel rest
    | none =>
      match tokens with
      | ⟨_, .word pieces⟩ :: rest =>
        match words, assignment? pieces with
        | [], some assigned => simple line (assigned :: assignments) [] held fuel rest
        | _, _ => simple line assignments (pieces :: words) held fuel rest
      | _ => return (.simple line assignments.reverse words.reverse held.reverse, tokens)

/-- Takes words up to the end of the line. -/
def wordList (held : List Word) : List Placed → List Word × List Placed
  | ⟨_, .word pieces⟩ :: rest => wordList (pieces :: held) rest
  | tokens => (held.reverse, tokens)

/-- Takes the patterns of an arm, up to the closing parenthesis. -/
def patterns (held : List Word) : Nat → Reader (List Word)
  | 0, tokens => refuse none tokens
  | fuel + 1, tokens =>
    match tokens with
    | ⟨_, .word pieces⟩ :: ⟨_, .operator "|"⟩ :: rest => patterns (pieces :: held) fuel rest
    | ⟨_, .word pieces⟩ :: ⟨_, .operator ")"⟩ :: rest => .ok ((pieces :: held).reverse, rest)
    | ⟨_, .word _⟩ :: rest => refuse (some ")") rest
    | tokens => refuse none tokens

/-- A semicolon is passed over, and newlines are. -/
def skipSeparator (tokens : List Placed) : List Placed :=
  match tokens with
  | ⟨_, .operator ";"⟩ :: rest => skipNewlines rest
  | _ => skipNewlines tokens

mutual

/-- Takes a command. -/
def command : Nat → Reader Command
  | 0, tokens => refuse none tokens
  | fuel + 1, tokens => do
    match tokens with
    | [] => refuse none []
    | ⟨line, token⟩ :: rest =>
      match keyword? token with
      | some "if" =>
        let (body, rest) ← branches line fuel rest
        withRedirections line body fuel rest
      | some "while" => loops line false fuel rest
      | some "until" => loops line true fuel rest
      | some "for" =>
        match rest with
        | ⟨_, .word [.plain false name]⟩ :: rest =>
          if !isName name then throw ⟨line, "Syntax error: Bad for loop variable"⟩
          let rest := skipNewlines rest
          let (words, rest) : Option (List Word) × List Placed :=
            if startsWith "in" rest then
              let (words, rest) := wordList [] rest.tail
              (some words, rest)
            else (none, rest)
          let ((), rest) ← expect "do" (skipSeparator rest)
          let (body, rest) ← list fuel rest
          let ((), rest) ← expect "done" rest
          withRedirections line (.each line name words body) fuel rest
        | _ => .error ⟨line, "Syntax error: Bad for loop variable"⟩
      | some "case" =>
        match rest with
        | ⟨_, .word pieces⟩ :: rest =>
          let ((), rest) ← expect "in" rest
          let (chosen, rest) ← arms line [] fuel (skipNewlines rest)
          withRedirections line (.choose line pieces chosen) fuel rest
        | rest => refuse (some "word") rest
      | some "\x7b" =>
        let (body, rest) ← list fuel rest
        let ((), rest) ← expect "\x7d" rest
        withRedirections line body fuel rest
      | some "!" => refuse none tokens
      | some _ => refuse none tokens
      | none =>
        match token, rest with
        | .operator "(", rest =>
          let (body, rest) ← list fuel rest
          let ((), rest) ← expect ")" rest
          withRedirections line (.subshell line body) fuel rest
        | .word [.plain false name], ⟨_, .operator "("⟩ :: ⟨_, .operator ")"⟩ :: rest =>
          if !isName name then throw ⟨line, "Syntax error: Bad function name"⟩
          let (body, rest) ← command fuel (skipNewlines rest)
          return (.define name body, rest)
        | .word _, ⟨_, .operator "("⟩ :: rest => refuse none (⟨line, .operator "("⟩ :: rest)
        | .operator text, _ =>
          if (direction? text).isSome then simple line [] [] [] (tokens.length + 1) tokens
          else refuse none tokens
        | .fault _, _ => refuse none tokens
        | .newline, _ => refuse none tokens
        | _, _ => simple line [] [] [] (tokens.length + 1) tokens

/-- Takes a loop behind its first word. -/
def loops (line : Nat) (onFailure : Bool) : Nat → Reader Command
  | 0, tokens => refuse none tokens
  | fuel + 1, tokens => do
    let (condition, rest) ← list fuel tokens
    let ((), rest) ← expect "do" rest
    let (body, rest) ← list fuel rest
    let ((), rest) ← expect "done" rest
    withRedirections line (.loop onFailure condition body) fuel rest

/-- Takes a condition and its branches, up to the closing word. -/
def branches (line : Nat) : Nat → Reader Command
  | 0, tokens => refuse none tokens
  | fuel + 1, tokens => do
    let (condition, rest) ← list fuel tokens
    let ((), rest) ← expect "then" rest
    let (body, rest) ← list fuel rest
    if startsWith "elif" rest then
      let (otherwise, rest) ← branches line fuel rest.tail
      return (.branch condition body otherwise, rest)
    else if startsWith "else" rest then
      let (otherwise, rest) ← list fuel rest.tail
      let ((), rest) ← expect "fi" rest
      return (.branch condition body otherwise, rest)
    else
      let ((), rest) ← expect "fi" rest
      return (.branch condition body .nothing, rest)

/-- Takes the arms of a choice, up to the closing word. -/
def arms (line : Nat) (held : List (List Word × Command)) :
    Nat → Reader (List (List Word × Command))
  | 0, tokens => refuse none tokens
  | fuel + 1, tokens => do
    if tokens.isEmpty then refuse (some ")") []
    else if startsWith "esac" tokens then return (held.reverse, tokens.tail)
    else
      let tokens := if startsOperator "(" tokens then tokens.tail else tokens
      let (names, rest) ← patterns [] fuel tokens
      let rest := skipNewlines rest
      let (body, rest) ← if atEnd rest then pure (Command.nothing, rest) else list fuel rest
      let rest := skipNewlines rest
      if startsOperator ";;" rest then
        arms line ((names, body) :: held) fuel (skipNewlines rest.tail)
      else
        let ((), rest) ← if rest.isEmpty then refuse (some ";;") [] else expect "esac" rest
        return (((names, body) :: held).reverse, rest)

/-- Adds the redirections that follow a command in brackets of some kind. -/
def withRedirections (line : Nat) (body : Command) : Nat → Reader Command
  | 0, tokens => refuse none tokens
  | fuel + 1, tokens => do
    let (list, rest) ← redirections [] fuel tokens
    return (if list.isEmpty then body else .redirected line body list, rest)

/-- Takes commands joined by pipes. -/
def pipeline (negated : Bool) (held : List Command) : Nat → Reader Command
  | 0, tokens => refuse none tokens
  | fuel + 1, tokens => do
    if held.isEmpty && startsWith "!" tokens then pipeline (!negated) [] fuel tokens.tail
    else
      let (first, rest) ← command fuel tokens
      if startsOperator "|" rest then
        pipeline negated (first :: held) fuel (skipNewlines rest.tail)
      else
        match held, negated with
        | [], false => return (first, rest)
        | _, _ => return (.pipeline negated (first :: held).reverse, rest)

/-- Takes pipelines joined by `&&` and `||`. -/
def andOr (left : Option (Command × Bool)) : Nat → Reader Command
  | 0, tokens => refuse none tokens
  | fuel + 1, tokens => do
    let (right, rest) ← pipeline false [] fuel tokens
    let joined := match left with
      | none => right
      | some (left, true) => .andThen left right
      | some (left, false) => .orElse left right
    if startsOperator "&&" rest then andOr (some (joined, true)) fuel (skipNewlines rest.tail)
    else if startsOperator "||" rest then andOr (some (joined, false)) fuel (skipNewlines rest.tail)
    else return (joined, rest)

/-- Takes commands up to a word or an operator that ends their list. -/
def list : Nat → Reader Command
  | 0, tokens => refuse none tokens
  | fuel + 1, tokens => do
    let tokens := skipNewlines tokens
    if tokens.isEmpty then return (.nothing, [])
    let (first, rest) ← andOr none fuel tokens
    let first := if startsOperator "&" rest then .background first else first
    if startsOperator ";" rest || startsOperator "&" rest || rest.head?.map (·.token) == some .newline
    then
      let rest := skipNewlines rest.tail
      if atEnd rest then return (first, rest)
      else
        let (others, rest) ← list fuel rest
        return (.sequence first others, rest)
    else if atEnd rest then return (first, rest)
    else refuse none rest

end

/-- Takes the commands of one line. -/
def line : Nat → Reader Command
  | 0, tokens => refuse none tokens
  | fuel + 1, tokens => do
    let (first, rest) ← andOr none (tokens.length * 4 + 4) tokens
    let first := if startsOperator "&" rest then .background first else first
    match rest with
    | [] => return (first, [])
    | placed :: after =>
      if placed.token == .newline then return (first, after)
      else if placed.token == .operator ";" || placed.token == .operator "&" then
        match after with
        | [] => return (first, [])
        | next :: following =>
          if next.token == .newline then return (first, following)
          else
            let (others, rest) ← line fuel after
            return (.sequence first others, rest)
      else refuse none rest

/-- Takes a script line by line. -/
def lines (last : Nat) (held : List Command) : Nat → List Placed → Script
  | 0, _ => ⟨held.reverse, none⟩
  | fuel + 1, tokens =>
    match skipNewlines tokens with
    | [] => ⟨held.reverse, none⟩
    | tokens =>
      match line (tokens.length + 1) tokens with
      | .ok (command, rest) => lines last (command :: held) fuel rest
      | .error fault =>
        ⟨held.reverse, some (if fault.line = 0 then { fault with line := last } else fault)⟩

mutual

/-- A token, or the fault of a script inside it. -/
def checked : Nat → Placed → Placed
  | 0, placed => placed
  | fuel + 1, placed =>
    match placed.token with
    | .word pieces =>
      match pieces.findSome? (faultIn? fuel) with
      | some fault => ⟨fault.line, .fault ((fault.message.drop 14).toString)⟩
      | none => placed
    | _ => placed

/-- The fault of the script in a piece, if there is one. A script in parentheses is read up to its
closing parenthesis. -/
def faultIn? : Nat → Piece → Option Fault
  | 0, _ => none
  | fuel + 1, .output _ line text =>
    let first := max line 1
    let tokens := (Lexer.tokens first text).map (checked fuel)
    let last := first + text.count '\n'
    if line = 0 then (lines last [] (tokens.length + 1) tokens).fault
    else
      let tokens := skipNewlines (tokens ++ [⟨last, .operator ")"⟩])
      if startsOperator ")" tokens then none
      else
        match list (tokens.length * 4 + 8) tokens with
        | .error fault => some fault
        | .ok (_, rest) =>
          match expect ")" rest with
          | .error fault => some fault
          | .ok _ => none
  | _, _ => none

end

/-- How deep scripts inside scripts are looked at before they are carried out. -/
def depth : Nat := 16

/-- Takes a script apart that begins on a line. -/
def scriptFrom (line : Nat) (text : Octets) : Script :=
  let tokens := (Lexer.tokens line text).map (checked depth)
  lines (line + text.count '\n') [] (tokens.length + 1) tokens

/-- Takes a script apart. -/
def script (text : Octets) : Script := scriptFrom 1 text

end CodeJudge.Shell.Parser
