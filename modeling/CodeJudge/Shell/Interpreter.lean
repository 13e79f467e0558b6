import CodeJudge.Shell.Builtin

/-!
# Carrying out scripts

A shell as a program of system calls. Commands that the shell knows itself are carried out in its own
process; tools, subshells, the parts of a pipeline and what runs in the background get processes of
their own.

`bound` limits how deep commands may be nested and how often loops may go round; it is larger than
any run comes to.
-/

namespace CodeJudge.Shell

open Process (Pid Action Ending Handle Descriptors)

/-- Takes off the newlines at the end of a text. -/
def dropNewlines (text : Octets) : Octets := (text.reverse.dropWhile (· = '\n')).reverse

mutual

/-- Finds the values of the pieces of a word. -/
def expand (split : Bool) (state : State) (held : List Fragment) :
    Nat → Word → Action (State × List Fragment)
  | 0, _ => pure (state, [])
  | _, [] => pure (state, held.reverse)
  | bound + 1, piece :: rest => do
    match piece with
    | .plain quoted text => expand split state (.text quoted false text :: held) bound rest
    | .output quoted line script =>
      let (state, text) ← outputOf state line bound script
      expand split state (.text quoted split text :: held) bound rest
    | .arithmetic quoted expression =>
      let (state, text) ← arithmeticOf state bound expression
      expand split state (.text quoted split text :: held) bound rest
    | .parameter quoted name operator operand =>
      if (name = ['@'] || (name = ['*'] && !quoted)) && operator.isEmpty then
        match state.arguments with
        | [] => expand split state (.nothing :: held) bound rest
        | arguments =>
          let fragments := arguments.map fun a => Fragment.text quoted split a
          expand split state ((fragments.intersperse .boundary).reverse ++ held) bound rest
      else
        let (state, fragments) ← parameterOf split state quoted name operator operand bound
        expand split state (fragments.reverse ++ held) bound rest

/-- Finds the value of a parameter with an operator. -/
def parameterOf (split : Bool) (state : State) (quoted : Bool) (name operator operand : Octets) :
    Nat → Action (State × List Fragment)
  | 0 => pure (state, [])
  | bound + 1 => do
    let value := state.parameter? name
    let lacking := match operator with
      | ':' :: _ => (value.getD []).isEmpty
      | _ => value.isNone
    let plain (text : Octets) : List Fragment := [.text quoted split text]
    let patterned := operator.getLast? = some '#' || operator.getLast? = some '%'
    let plainly := operator.isEmpty || operator = ['l', 'e', 'n'] || patterned
    if plainly && state.strict && value.isNone && name != ['@'] && name != ['*'] then
      state.warn (name.toText ++ ": parameter not set")
      let status ← leaveShell { state with status := 2 } bound
      Action.exit status
    let pieces : Except String (Word × Octets) :=
      if quoted && !patterned then
        Lexer.doubleQuoted .operand state.line [] (operand.length + 1) operand
      else Lexer.word true state.line [] (operand.length + 2) operand
    match operator with
    | [] => return (state, plain (value.getD []))
    | ['l', 'e', 'n'] => return (state, plain (Octets.ofInt (value.getD []).length))
    | _ =>
      match pieces with
      | .error message =>
        state.warn ("Syntax error: " ++ message)
        let status ← leaveShell { state with status := 2 } bound
        Action.exit status
      | .ok (pieces, _) =>
        match operator.getLast? with
        | some '-' =>
          if !lacking then return (state, plain (value.getD []))
          let (state, fragments) ← expand split state [] bound pieces
          return (state, fragments.map (Fragment.splittable split))
        | some '+' =>
          if lacking then return (state, [])
          let (state, fragments) ← expand split state [] bound pieces
          return (state, fragments.map (Fragment.splittable split))
        | some '=' =>
          if lacking then
            let (state, fragments) ← expand split state [] bound pieces
            let text := Marked.text (Fields.single fragments)
            return (← setting state bound name text, plain text)
          else return (state, plain (value.getD []))
        | some '?' =>
          if lacking then
            let (state, fragments) ← expand split state [] bound pieces
            let text := Marked.text (Fields.single fragments)
            state.warn (name.toText ++ ": "
              ++ if !text.isEmpty then text.toText
                else if operator.length = 2 then "parameter not set or null" else "parameter not set")
            let status ← leaveShell { state with status := 2 } bound
            Action.exit status
          else return (state, plain (value.getD []))
        | some '#' =>
          if value.isNone then return (state, plain [])
          let (state, fragments) ← expand split state [] bound pieces
          return (state, plain (Marked.dropFront (Fields.single fragments) (operator.length = 2) (value.getD [])))
        | some '%' =>
          if value.isNone then return (state, plain [])
          let (state, fragments) ← expand split state [] bound pieces
          return (state, plain (Marked.dropBack (Fields.single fragments) (operator.length = 2) (value.getD [])))
        | _ =>
          state.warn "Bad substitution"
          let status ← leaveShell { state with status := 2 } bound
          Action.exit status

/-- The value of an arithmetic expression. -/
def arithmeticOf (state : State) : Nat → Octets → Action (State × Octets)
  | 0, _ => pure (state, [])
  | bound + 1, expression => do
    match Lexer.doubleQuoted .expression state.line [] (expression.length + 1) expression with
    | .error message =>
      state.warn ("Syntax error: " ++ message)
      let status ← leaveShell { state with status := 2 } bound
      Action.exit status
    | .ok (pieces, _) =>
      let (state, fragments) ← expand false state [] bound pieces
      let text := Marked.text (Fields.single fragments)
      match Arithmetic.evaluate state.constants state.bindings text with
      | .ok (value, bindings) => return ({ state with bindings }, Octets.ofInt value)
      | .error fault =>
        state.warn (fault.message text)
        let status ← leaveShell { state with status := 2 } bound
        Action.exit status

/-- The output of a script that begins on a line, or (zero) has lines of its own. -/
def outputOf (state : State) (line : Nat) : Nat → Octets → Action (State × Octets)
  | 0, _ => pure (state, [])
  | bound + 1, script => do
    let (reader, writer) ← Action.pipe
    let descriptors ← Action.descriptors
    Action.setDescriptors (descriptors.kept.set 1 writer)
    let child ← spawn state
      (runScript state.apart bound (Parser.scriptFrom (max line 1) script))
    Action.setDescriptors (descriptors.set 63 reader)
    let bytes ← Tools.readAll 63 .empty bound
    Action.setDescriptors descriptors
    let status ← await child
    return ({ state with substituted := status }, dropNewlines ((Octets.ofArray bytes).filter (· != '\x00')))

/-- The fields of words. -/
def fieldsOf (state : State) (held : List Octets) : Nat → List Word → Action (State × List Octets)
  | 0, _ => pure (state, [])
  | _, [] => pure (state, held.reverse)
  | bound + 1, word :: rest => do
    let (state, fragments) ← expand true state [] bound word
    let files ← Action.look
    let fields := (Fields.ofFragments state.separators fragments).flatMap fun field =>
      if state.patternless then [Marked.text field] else Fields.paths files state.here field
    fieldsOf state (fields.reverse ++ held) bound rest

/-- The text of a word that is one field. -/
def textOf (state : State) : Nat → Word → Action (State × Octets)
  | 0, _ => pure (state, [])
  | bound + 1, word => do
    let (state, fragments) ← expand false state [] bound word
    return (state, Marked.text (Fields.single fragments))

/-- Sets a variable; the shell is left if it must not change. -/
def setting (state : State) : Nat → Octets → Octets → Action State
  | 0, _, _ => pure state
  | bound + 1, name, text => do
    match state.assign name text with
    | .ok state => return state
    | .error _ =>
      state.warn (name.toText ++ ": is read only")
      let status ← leaveShell { state with status := 2 } bound
      Action.exit status

/-- Carries out assignments. -/
def assign (state : State) : Nat → List (Octets × Word) → Action State
  | 0, _ => pure state
  | _, [] => pure state
  | bound + 1, (name, word) :: rest => do
    let (state, text) ← textOf state bound word
    let state ← setting state bound name text
    if text.length > 4096 then Action.spend (32 * text.length)
    assign state bound rest

/-- Carries out redirections; the answer tells whether all could be made. -/
def redirect (state : State) : Nat → List Redirection → Action (State × Bool)
  | 0, _ => pure (state, false)
  | _, [] => pure (state, true)
  | bound + 1, redirection :: rest => do
    let (state, target) ← textOf state bound redirection.target
    let descriptors ← Action.descriptors
    let lead (handle : Handle) : Action Unit :=
      Action.setDescriptors (descriptors.set redirection.descriptor handle)
    let opened (mode : Process.Mode) : Action (State × Bool) := do
      match ← Action.openFile state.here target.toText mode with
      | .ok handle =>
        lead handle
        redirect state bound rest
      | .error fault =>
        state.warn (openFault target mode fault)
        return ({ state with status := 2 }, false)
    match redirection.direction with
    | .input => opened .read
    | .overwrite => opened .write
    | .output =>
      let files ← Action.look
      match state.keeping, files.find state.here target.toText with
      | true, .ok (_, .file _) =>
        state.warn ("cannot create " ++ target.toText ++ ": File exists")
        return ({ state with status := 2 }, false)
      | _, _ => opened .write
    | .append => opened .append
    | .here =>
      let (reader, writer) ← Action.pipe
      Action.setDescriptors (descriptors.set 62 writer)
      let _ ← Action.fork (Action.program (do
        Action.setDescriptors [(1, writer)]
        Tools.put 1 target
        return 0))
      lead reader
      redirect state bound rest
    | _ =>
      if target = ['-'] then
        Action.setDescriptors (descriptors.close redirection.descriptor)
        redirect state bound rest
      else
        match Decimal.readNat? target with
        | none =>
          state.warn "Syntax error: Bad fd number"
          let status ← leaveShell { state with status := 2 } bound
          Action.exit status
        | some number =>
          match descriptors.get? number with
          | some handle =>
            lead handle
            redirect state bound rest
          | none =>
            state.warn (target.toText ++ ": Bad file descriptor")
            return ({ state with status := 2 }, false)

/-- Carries out what is to be done on the signals that have come. -/
def onSignals (state : State) (flow : Flow) : Nat → List Nat → Action (State × Flow)
  | 0, _ => pure (state, flow)
  | _, [] => pure (state, flow)
  | bound + 1, signal :: rest => do
    match flow, state.traps.lookup signal with
    | .leaveShell, _ => return (state, flow)
    | _, some action =>
      let status := state.status
      let (state, after) ← runLines state false bound (Parser.script action).commands
      let state := if after = .leaveShell then state else { state with status }
      onSignals state (if after = .normal then flow else after) bound rest
    | _, none => onSignals state flow bound rest

/-- The action of a program found by its name. A file of commands that does not say what is to read
them is read by the shell only when a shell starts it (`fromShell`). -/
def programOf (here : List String) (environment : List (Octets × Octets)) (fromShell : Bool)
    (name : Octets) (arguments : List Octets) : Nat → FileTree → Except FileFault (Action Nat)
  | 0, _ => .error .notFound
  | bound + 1, files =>
    match find files here name.toText with
    | .tool action => .ok (action { here, name := name.toText, arguments, bound })
    | .shell => .ok (shell here environment name bound arguments)
    | .launcher => .ok (launch here environment name.toText arguments bound)
    | .script path =>
      let marked := match files.read here path with
        | .ok content => "#!".toList.isPrefixOf (Octets.ofArray (content.bytes.extract 0 2))
        | .error _ => false
      if marked || fromShell then
        .ok (shell here environment ['s', 'h'] bound (Octets.ofText path :: arguments))
      else .error .notExecutable
    | .fault fault => .error fault

/-- Starts a program for a launcher. -/
def launch (here : List String) (environment : List (Octets × Octets)) (name : String)
    (arguments : List Octets) : Nat → Action Nat
  | 0 => pure 125
  | bound + 1 => do
    let start : Start := { here, name, arguments, bound }
    match Errand.ofArguments? name [] arguments with
    | none => Tools.confuse start "missing operand" 125
    | some errand =>
      let environment := errand.set ++ environment
      match errand.command with
      | [] =>
        Tools.put 1 (environment.flatMap fun entry => entry.1 ++ '=' :: entry.2 ++ ['\n'])
        return 0
      | program :: rest =>
        let files ← Action.look
        match programOf here environment false program rest bound files with
        | .error fault =>
          let status := if fault = .notFound then 127 else 126
          if name = "env" || name = "nice" then
            Tools.complain start (Tools.quoted program ++ ": " ++ Tools.words fault) status
          else if name = "setsid" then
            Tools.complain start ("failed to execute " ++ program.toText ++ ": " ++ Tools.words fault) status
          else
            Tools.complain start
              ("failed to run command " ++ Tools.quoted program ++ ": " ++ Tools.words fault) status
        | .ok action =>
          match errand.span with
          | none => action
          | some span =>
            let child ← Action.fork (Action.program action)
            let watch ← Action.fork (Action.program (do
              Action.sleep span
              let _ ← Action.kill child 15
              return 0))
            let ending ← Action.wait child
            let _ ← Action.kill watch 9
            match ending with
            | .signalled 15 => return 124
            | ending => return statusOf ending

/-- Starts a tool or a script in a process of its own, or (`final`) in place of this one. -/
def execute (state : State) (final : Bool) (name : Octets) (arguments : List Octets) :
    Nat → Action Nat
  | 0 => pure 2
  | bound + 1 => do
    let files ← Action.look
    match programOf state.here state.environment true name arguments bound files with
    | .ok action =>
      if final && state.traps.all (·.2.isEmpty) then
        let descriptors ← Action.descriptors
        Action.setDescriptors descriptors.visible
        let status ← action
        Action.exit status
      else
        let child ← spawn state action
        await child
    | .error .notFound =>
      state.warn (name.toText ++ ": not found")
      return 127
    | .error fault =>
      state.warn (name.toText ++ ": " ++ Tools.words fault)
      return 126

/-- Carries out a command of the shell's own, if the name is one. -/
def own (state : State) (final : Bool) (name : String) (arguments : List Octets) :
    Nat → Action (Option (State × Flow))
  | 0 => pure none
  | bound + 1 => do
    match name with
    | "eval" =>
      let script := Parser.script (List.intercalate [' '] arguments)
      let state := if script.commands.isEmpty then { state with status := 0 } else state
      let (after, flow) ← runParsed { state with speaker := some name } bound script
      return some ({ after with speaker := state.speaker }, flow)
    | "." =>
      match arguments with
      | [] => return some (Builtin.answer state 2)
      | path :: _ =>
        let files ← Action.look
        match files.read state.here path.toText with
        | .ok content =>
          let script := Parser.script (Octets.ofArray content.bytes)
          let state := if script.commands.isEmpty then { state with status := 0 } else state
          let (after, flow) ← runParsed { state with speaker := some path.toText } bound script
          return some ({ after with speaker := state.speaker },
            if flow = .leaveFunction then .normal else flow)
        | .error _ =>
          let result ← Builtin.fail state name ("cannot open " ++ path.toText ++ ": No such file")
          return some result
    | "exec" =>
      match arguments with
      | [] => return some (Builtin.answer state 0)
      | command :: rest =>
        let status ←
          execute { state with traps := state.ignored, speaker := some name } true command rest bound
        return some ({ state with status }, .leaveShell)
    | "command" =>
      match arguments with
      | ['-', 'v'] :: text :: _ =>
        match describe state text with
        | none => return some (Builtin.answer state 127)
        | some (_, place) =>
          Tools.put 1 (place ++ ['\n'])
          return some (Builtin.answer state 0)
      | command :: rest =>
        match ← own state final command.toText rest bound with
        | some result => return some result
        | none =>
          let status ← execute state final command rest bound
          return some (Builtin.answer state status)
      | [] => return some (Builtin.answer state 0)
    | _ =>
      match Builtin.find? name with
      | none => return none
      | some builtin =>
        let result ← builtin state arguments
        return some result

/-- Carries out a command. `tested` tells that its failure is looked at, `final` that nothing comes
after it. -/
def run (state : State) (tested final : Bool) : Nat → Command → Action (State × Flow)
  | 0, _ => pure (state, .leaveShell)
  | bound + 1, command => do
    if state.idle then return (state, .normal) else
    match command with
    | .nothing => return ({ state with status := 0 }, .normal)
    | .simple line assignments words redirections =>
      let before := { state with line }
      let (state, flow) ← runSimple (before.shielded tested) final assignments words redirections bound
      let state := state.unshielded tested before
      let signals ← Action.held
      let (state, flow) ← onSignals state flow bound signals
      let fails := state.careful && !tested && state.status != 0 && flow = .normal
      return (state, if fails then .leaveShell else flow)
    | .redirected line body redirections =>
      let state := { state with line }
      let saved ← Action.descriptors
      if !final then Action.setDescriptors saved.kept
      let (state, good) ← redirect state bound redirections
      let (state, flow) ← if good then run state tested final bound body else pure (state, .normal)
      Action.setDescriptors saved
      return (state, flow)
    | .sequence first rest =>
      let (state, flow) ← run state tested false bound first
      if flow = .normal then run state tested final bound rest else return (state, flow)
    | .andThen left right =>
      let (state, flow) ← run state true false bound left
      if flow = .normal && state.status = 0 then run state tested final bound right
      else return (state, flow)
    | .orElse left right =>
      let (state, flow) ← run state true false bound left
      if flow = .normal && state.status != 0 then run state tested final bound right
      else return (state, flow)
    | .branch condition body otherwise =>
      let (state, flow) ← run state true false bound condition
      if flow != .normal then return (state, flow)
      else if state.status = 0 then run state tested final bound body
      else run state tested final bound otherwise
    | .loop onFailure condition body =>
      let (after, flow) ←
        rounds { state with loops := state.loops + 1 } tested onFailure condition body 0 bound
      return ({ after with loops := state.loops }, flow)
    | .each line name words body =>
      let state := { state with line }
      let (state, values) ← match words with
        | some words => fieldsOf state [] bound words
        | none => pure (state, state.arguments)
      let state := if values.isEmpty then { state with status := 0 } else state
      let (after, flow) ← roundsOver { state with loops := state.loops + 1 } tested name values body bound
      return ({ after with loops := state.loops }, flow)
    | .choose line word arms =>
      let state := { state with line }
      let (state, text) ← textOf state bound word
      choose state tested text bound arms
    | .define name body =>
      let functions := (name, body) :: state.functions.filter (·.1 != name)
      return ({ state with functions, status := 0 }, .normal)
    | .subshell line body =>
      let state := { state with line }
      let child ← spawn state (runCommands (state.shielded tested).apart bound [body])
      let status ← await child
      let fails := state.careful && !tested && status != 0
      return ({ state with status }, if fails then .leaveShell else .normal)
    | .background body =>
      let child ← spawn state (do
        let descriptors ← Action.descriptors
        Action.setDescriptors (descriptors.set 0 .null)
        runCommands state.apart bound [body])
      return ({ state with status := 0, last := some child, jobs := state.jobs ++ [child] }, .normal)
    | .pipeline negated commands =>
      match commands with
      | [only] =>
        let (state, flow) ← run state true false bound only
        let turned := negated && flow = .normal
        let status := if turned then (if state.status = 0 then 1 else 0) else state.status
        return ({ state with status }, flow)
      | _ =>
        let saved ← Action.descriptors
        let pids ← join (state.shielded (tested || negated)) saved [] bound commands
        let status ← awaitAll 0 pids
        let status := if negated then (if status = 0 then 1 else 0) else status
        let fails := state.careful && !tested && !negated && status != 0
        return ({ state with status }, if fails then .leaveShell else .normal)

/-- Starts the commands of a pipeline, each reading what the one before it writes. The input of the
first of them is in place; `saved` holds the descriptors to be put back at the end. -/
def join (state : State) (saved : Descriptors) (held : List Pid) :
    Nat → List Command → Action (List Pid)
  | 0, _ => pure held.reverse
  | _, [] => pure held.reverse
  | bound + 1, command :: rest => do
    let child : Action Nat := runCommands state.apart bound [command]
    if rest.isEmpty then
      let pid ← spawn state child
      Action.setDescriptors saved
      return (pid :: held).reverse
    else
      let (reader, writer) ← Action.pipe
      let here ← Action.descriptors
      Action.setDescriptors ((if held.isEmpty then here.kept else here).set 1 writer)
      let pid ← spawn state child
      Action.setDescriptors (saved.kept.set 0 reader)
      join state saved (pid :: held) bound rest

/-- Goes round a loop. -/
def rounds (state : State) (tested onFailure : Bool) (condition body : Command) (status : Nat) :
    Nat → Action (State × Flow)
  | 0 => pure (state, .leaveShell)
  | bound + 1 => do
    let (state, flow) ← run state true false bound condition
    if flow != .normal then return leave state flow
    else if (state.status = 0) = onFailure then return ({ state with status }, .normal)
    else
      let (state, flow) ← run state tested false bound body
      match flow with
      | .normal | .nextRound 0 | .nextRound 1 =>
        rounds state tested onFailure condition body state.status bound
      | flow => return leave state flow
where
  /-- What a loop makes of the way its inside was left. -/
  leave (state : State) : Flow → State × Flow
    | .leaveLoop depth => (state, if depth ≤ 1 then .normal else .leaveLoop (depth - 1))
    | .nextRound depth => (state, if depth ≤ 1 then .normal else .nextRound (depth - 1))
    | flow => (state, flow)

/-- Goes round a loop over values. -/
def roundsOver (state : State) (tested : Bool) (name : Octets) (values : List Octets) (body : Command) :
    Nat → Action (State × Flow)
  | 0 => pure (state, .leaveShell)
  | bound + 1 => do
    match values with
    | [] => return (state, .normal)
    | value :: rest =>
      let state ← setting state bound name value
      let (state, flow) ← run state tested false bound body
      match flow with
      | .normal | .nextRound 0 | .nextRound 1 => roundsOver state tested name rest body bound
      | .leaveLoop depth => return (state, if depth ≤ 1 then .normal else .leaveLoop (depth - 1))
      | .nextRound depth => return (state, .nextRound (depth - 1))
      | flow => return (state, flow)

/-- Carries out the first arm that has a matching pattern. -/
def choose (state : State) (tested : Bool) (text : Octets) :
    Nat → List (List Word × Command) → Action (State × Flow)
  | 0, _ => pure (state, .leaveShell)
  | _, [] => pure ({ state with status := 0 }, .normal)
  | bound + 1, (patterns, body) :: rest => do
    let (state, found) ← anyMatch state text bound patterns
    if found then run state tested false bound body else choose state tested text bound rest

/-- Whether one of the patterns matches. -/
def anyMatch (state : State) (text : Octets) : Nat → List Word → Action (State × Bool)
  | 0, _ => pure (state, false)
  | _, [] => pure (state, false)
  | bound + 1, pattern :: rest => do
    let (state, fragments) ← expand false state [] bound pattern
    if Marked.matchesText (Fields.single fragments) text then return (state, true)
    else anyMatch state text bound rest

/-- Carries out a simple command. -/
def runSimple (state : State) (final : Bool) (assignments : List (Octets × Word)) (words : List Word)
    (redirections : List Redirection) : Nat → Action (State × Flow)
  | 0 => pure (state, .leaveShell)
  | bound + 1 => do
    let (state, fields) ← fieldsOf { state with substituted := 0 } [] bound words
    let trace (state : State) : Action Unit :=
      if state.traced then
        let set := assignments.map fun entry => entry.1 ++ '=' :: state.value entry.1
        Tools.put 2 (['+', ' '] ++ List.intercalate [' '] (set ++ fields) ++ ['\n'])
      else pure ()
    match fields with
    | [] =>
      let saved ← Action.descriptors
      Action.setDescriptors saved.kept
      let (state, good) ← redirect state bound redirections
      let state ← if good then assign state bound assignments else pure state
      if good && !assignments.isEmpty then trace state
      Action.setDescriptors saved
      return ({ state with status := if good then state.substituted else 2 }, .normal)
    | name :: arguments =>
      let saved ← Action.descriptors
      if !redirections.isEmpty then Action.setDescriptors saved.kept
      let (state, good) ← redirect state bound redirections
      let word := name.toText
      if !good then
        Action.setDescriptors saved
        return ({ state with status := 2 }, if special.contains word then .leaveShell else .normal)
      else
        let outer := state
        let state ← assign state bound assignments
        trace state
        let (state, flow) ← match state.functions.lookup name with
          | some body => do
            let (inside, flow) ←
              run { state with arguments, locals := [], loops := 0, inFunction := true } false false bound body
            let after := inside.locals.foldl State.restore inside
            let after := assignments.foldl (fun (after : State) entry =>
              after.restore (entry.1, outer.bindings.lookup entry.1)) after
            pure ({ after with
                arguments := state.arguments
                locals := state.locals
                loops := state.loops
                inFunction := state.inFunction },
              if flow = .leaveFunction then .normal else flow)
          | none => do
            match ← own state final word arguments bound with
            | some (after, flow) =>
              let after := if special.contains word then after
                else assignments.foldl (fun (after : State) entry =>
                  after.restore (entry.1, outer.bindings.lookup entry.1)) after
              pure (after, flow)
            | none =>
              let given := { state with exported := assignments.map (·.1) ++ state.exported }
              let status ← execute given final name arguments bound
              let bindings := if assignments.isEmpty then state.bindings else outer.bindings
              pure ({ state with bindings, status }, .normal)
        if word = "exec" && arguments.isEmpty then
          let descriptors ← Action.descriptors
          Action.setDescriptors descriptors.visible
          return (state, flow)
        else
          Action.setDescriptors saved
          return (state, flow)

/-- Carries out commands one after another. -/
def runLines (state : State) (final : Bool) : Nat → List Command → Action (State × Flow)
  | 0, _ => pure (state, .leaveShell)
  | _, [] => pure (state, .normal)
  | bound + 1, command :: rest => do
    let (state, flow) ← run state false (final && rest.isEmpty) bound command
    if flow = .normal then runLines state final bound rest else return (state, flow)

/-- Carries out a script inside a shell; its fault ends the shell. -/
def runParsed (state : State) : Nat → Script → Action (State × Flow)
  | 0, _ => pure (state, .leaveShell)
  | bound + 1, script => do
    let (state, flow) ← runLines state false bound script.commands
    match flow, script.fault with
    | .normal, some fault =>
      State.warn { state with line := fault.line } fault.message
      return ({ state with status := 2 }, .leaveShell)
    | _, _ => return (state, flow)

/-- Carries out what is to be done when the shell exits, and answers its status. -/
def leaveShell (state : State) : Nat → Action Nat
  | 0 => pure state.status
  | bound + 1 => do
    match state.traps.lookup 0 with
    | none => return state.status
    | some action =>
      let traps := state.traps.filter (·.1 != 0)
      let (after, flow) ← runLines { state with traps } false bound (Parser.script action).commands
      return if flow = .leaveShell then after.status else state.status

/-- Carries out commands as a process of their own, and answers its status. -/
def runCommands (state : State) : Nat → List Command → Action Nat
  | 0, _ => pure 2
  | bound + 1, commands => do
    let (state, _) ← runLines state true bound commands
    leaveShell state bound

/-- Carries out a script as a process of its own, and answers its status. -/
def runScript (state : State) : Nat → Script → Action Nat
  | 0, _ => pure 2
  | bound + 1, script => do
    let (state, _) ← runParsed state bound script
    leaveShell state bound

/-- The shell as a tool: it carries out the script given as text, in a file, or on its input. -/
def shell (here : List String) (environment : List (Octets × Octets)) (name : Octets) :
    Nat → List Octets → Action Nat
  | 0, _ => pure 2
  | bound + 1, arguments => do
    let pid ← Action.self
    let state : State := { here, name, pid, bindings := environment, exported := environment.map (·.1) }
    let state := (preset here).foldl (fun (state : State) entry => state.set entry.1 entry.2) state
    let (letters, rest) := Tools.options [] arguments
    match (letters.filter (· != 'c')).foldlM (fun (state : State) c => state.option? true c) state with
    | none =>
      State.warn { state with line := 0 } ("Illegal option -" ++ String.ofList (letters.take 1))
      return 2
    | some state =>
      if letters.contains 'n' then
        let files ← Action.look
        let path := rest.headD []
        match files.read here path.toText with
        | .error _ =>
          state.warn ("cannot open " ++ path.toText ++ ": No such file")
          return 2
        | .ok content =>
          match (Parser.script (Octets.ofArray content.bytes)).fault with
          | none => return 0
          | some fault =>
            State.warn { state with name := path, line := fault.line } fault.message
            return 2
      else if letters.contains 'c' then
        match rest with
        | [] =>
          State.warn { state with line := 0 } "-c requires an argument"
          return 2
        | text :: rest =>
          let state := match rest with
            | [] => state
            | name :: arguments => { state with name, arguments }
          let script := Parser.script text
          match script.fault with
          | some _ => runScript state bound script
          | none =>
            let (state, _) ← runLines state true bound script.commands
            leaveShell state bound
      else shellFrom state bound rest

/-- The shell on a file, or on its input. -/
def shellFrom (state : State) : Nat → List Octets → Action Nat
  | 0, _ => pure 2
  | bound + 1, arguments => do
    match arguments with
    | [] =>
      let bytes ← Tools.readAll 0 .empty bound
      runScript state bound (Parser.script (Octets.ofArray bytes))
    | path :: arguments =>
      let files ← Action.look
      match files.read state.here path.toText with
      | .ok content =>
        runScript { state with name := path, arguments } bound
          (Parser.script (Octets.ofArray content.bytes))
      | .error _ =>
        State.warn { state with line := 0 } ("cannot open " ++ path.toText ++ ": No such file")
        return 2

end

/-- How deep and how long scripts may go. -/
def bound : Nat := 1000000000

/-- The action of a command, seen from a directory; or why it cannot be started. -/
def actionOf (files : FileTree) (here : List String) (command : List String) :
    Except FileFault (Action Nat) :=
  match command with
  | [] => .error .notFound
  | name :: arguments =>
    if command.any fun argument => argument.toList.contains '\x00' then .error .nulInCommand
    else programOf here [] false (Octets.ofText name) (arguments.map Octets.ofText) bound files

end CodeJudge.Shell
