import CodeJudge.Shell.Octets

/-!
# Shell commands

What a script says, once it has been taken apart. A word is kept in pieces, because what a piece
becomes when the command is carried out depends on how it was quoted. The inside of a substitution is
kept as it was written, and is read when it is needed.
-/

namespace CodeJudge.Shell

/-- A piece of a word. -/
inductive Piece
  /-- Characters that stand for themselves. -/
  | plain (quoted : Bool) (text : Octets)
  /-- The value of a parameter, with an operator and its operand if there is one. -/
  | parameter (quoted : Bool) (name : Octets) (operator operand : Octets)
  /-- The output of a script, whose first line has a number among the lines around it. -/
  | output (quoted : Bool) (line : Nat) (script : Octets)
  /-- The value of an arithmetic expression. -/
  | arithmetic (quoted : Bool) (expression : Octets)
  deriving DecidableEq, Repr

/-- A word of a script. -/
abbrev Word := List Piece

/-- What a redirection does. -/
inductive Direction
  | input
  | output
  /-- Writing to a file even where files are kept from being written over. -/
  | overwrite
  | append
  /-- Reading from another descriptor, or closing. -/
  | inputFrom
  /-- Writing to another descriptor, or closing. -/
  | outputTo
  /-- Reading the text given in the script. -/
  | here
  deriving DecidableEq, Repr

/-- A redirection of a descriptor. -/
structure Redirection where
  descriptor : Nat
  direction : Direction
  target : Word
  deriving DecidableEq, Repr

/-- A command. -/
inductive Command
  | nothing
  | simple (line : Nat) (assignments : List (Octets × Word)) (words : List Word)
      (redirections : List Redirection)
  | pipeline (negated : Bool) (commands : List Command)
  | andThen (left right : Command)
  | orElse (left right : Command)
  | sequence (first rest : Command)
  | background (body : Command)
  | subshell (line : Nat) (body : Command)
  | branch (condition body otherwise : Command)
  | loop (onFailure : Bool) (condition body : Command)
  | each (line : Nat) (name : Octets) (words : Option (List Word)) (body : Command)
  | choose (line : Nat) (word : Word) (arms : List (List Word × Command))
  | define (name : Octets) (body : Command)
  | redirected (line : Nat) (body : Command) (redirections : List Redirection)

/-- Why a script cannot be read on, and the line where that shows. -/
structure Fault where
  line : Nat
  message : String
  deriving DecidableEq, Repr

/-- A script: commands to be carried out one after another, and the fault behind them, if any. -/
structure Script where
  commands : List Command
  fault : Option Fault

end CodeJudge.Shell
