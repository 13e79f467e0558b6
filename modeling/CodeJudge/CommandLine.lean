/-!
# The command line

One required option, the path of the configuration, then the role to take. Options of the program
stand before the role, options of the role behind it.

The arguments are read from the left, and the first one that asks for help or the version, or that
cannot be understood, decides the answer. An option that takes a value takes the next argument unless
that looks like an option itself; a value may also be attached.
-/

namespace CodeJudge.CommandLine

/-- What the process is to be. -/
inductive Role
  | registry
  | worker
  /-- The coordinator, and whether it starts from an empty store. -/
  | coordinator (flush : Bool)
  deriving DecidableEq, Repr

/-- A command line that was understood. -/
structure Invocation where
  config : String
  role : Role
  deriving DecidableEq, Repr

/-- Why there is nothing to run. -/
inductive Refusal
  | help
  | version
  | usage
  deriving DecidableEq, Repr

/-- One argument by its form. -/
inductive Argument
  /-- `--name`, with the text behind an equals sign if there is one. -/
  | long (name : List Char) (value : Option (List Char))
  /-- `-abc`: one or more letters. -/
  | short (letters : List Char)
  /-- `--` alone: no option follows. -/
  | separator
  | word (text : String)

/-- The text before the first equals sign, and the text behind it. -/
def cutAtEquals : List Char → List Char × Option (List Char)
  | [] => ([], none)
  | '=' :: rest => ([], some rest)
  | c :: rest =>
    let (name, value) := cutAtEquals rest
    (c :: name, value)

/-- The form of an argument. A dash alone is a word. -/
def Argument.ofText (text : String) : Argument :=
  match text.toList with
  | ['-', '-'] => .separator
  | '-' :: '-' :: rest =>
    let (name, value) := cutAtEquals rest
    .long name value
  | '-' :: c :: rest => .short (c :: rest)
  | _ => .word text

/-- The options of the coordinator, with whether the flush option was given before. -/
def coordinatorOptions (flush : Bool) : List Argument → Except Refusal Bool
  | [] => .ok flush
  | .long name value :: rest =>
    if value.isSome then .error .usage
    else if name = "help".toList then .error .help
    else if name = "flush-data".toList && !flush then coordinatorOptions true rest
    else .error .usage
  | .short letters :: rest =>
    match letters with
    | 'h' :: _ => .error .help
    | ['f'] => if flush then .error .usage else coordinatorOptions true rest
    | 'f' :: 'h' :: _ => if flush then .error .usage else .error .help
    | _ => .error .usage
  | [.separator] => .ok flush
  | _ => .error .usage

/-- A role that takes no options of its own. -/
def plainOptions : List Argument → Except Refusal Unit
  | [] => .ok ()
  | [.separator] => .ok ()
  | .long name none :: _ => if name = "help".toList then .error .help else .error .usage
  | .short ('h' :: _) :: _ => .error .help
  | _ => .error .usage

/-- The roles by name. -/
def roleNames : List String := ["registry", "worker", "coordinator"]

/-- The answer to the role name `help`, given what follows it. -/
def helpFor : List String → Refusal
  | [] => .help
  | [name] => if (roleNames ++ ["help"]).contains name then .help else .usage
  | _ => .usage

/-- The role that a word names, with the arguments behind it. -/
def role (name : String) (rest : List String) : Except Refusal Role :=
  let arguments := rest.map Argument.ofText
  if name = "registry" then (fun _ => .registry) <$> plainOptions arguments
  else if name = "worker" then (fun _ => .worker) <$> plainOptions arguments
  else if name = "coordinator" then .coordinator <$> coordinatorOptions false arguments
  else if name = "help" then .error (helpFor rest)
  else .error .usage

/-- What an argument before the role asks for. -/
inductive Step
  | refuse (refusal : Refusal)
  /-- The configuration path, attached to its option. -/
  | path (text : List Char)
  /-- The configuration path, in the next argument. -/
  | pathFollows
  | role (name : String)

/-- What an argument before the role asks for. -/
def Step.ofArgument : Argument → Step
  | .separator => .refuse .usage
  | .word name => .role name
  | .short ('h' :: _) => .refuse .help
  | .short ('V' :: _) => .refuse .version
  | .short ['c'] => .pathFollows
  | .short ('c' :: '=' :: attached) => .path attached
  | .short ('c' :: attached) => .path attached
  | .short _ => .refuse .usage
  | .long name attached =>
    if name = "config".toList then
      match attached with
      | some attached => .path attached
      | none => .pathFollows
    else if attached.isSome then .refuse .usage
    else if name = "help".toList then .refuse .help
    else if name = "version".toList then .refuse .version
    else .refuse .usage

/-- Reads the arguments before the role, with the configuration path if it was given before. -/
def parseFrom (config : Option String) : List String → Except Refusal Invocation
  | [] => .error .usage
  | text :: rest =>
    match Step.ofArgument (.ofText text) with
    | .refuse refusal => .error refusal
    | .path attached =>
      if config.isSome then .error .usage else parseFrom (some (String.ofList attached)) rest
    | .pathFollows =>
      match rest with
      | [] => .error .usage
      | following :: rest =>
        match Argument.ofText following with
        | .word path => if config.isSome then .error .usage else parseFrom (some path) rest
        | _ => .error .usage
    | .role name =>
      match role name rest, config with
      | .error refusal, _ => .error refusal
      | .ok role, some config => .ok { config, role }
      | .ok _, none => .error .usage

/-- Reads a command line, the program's own name first. -/
def parse : List String → Except Refusal Invocation
  | [] => .error .usage
  | _ :: arguments => parseFrom none arguments

end CodeJudge.CommandLine
