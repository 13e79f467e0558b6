import CodeJudge.Process.Program

/-!
# The machine that runs programs

Processes over a file tree, with open files, pipes and a clock. One process runs until it has to
wait: for bytes or room in a pipe, for a child, or for the clock. Of several that could run, the one
started first does. System calls take no time; only sleeping does, so the clock moves when every
process waits, and then to the earliest time that one of them waits for.

A run ends when the caller's condition holds, when the clock would pass the caller's limit, when no
process can ever run again, or when the bound on system calls or the allowance of bytes and processes
is used up. The last three are the same to the caller: such a run has no end.
-/

namespace CodeJudge.Process

/-- An open file: its content and the position in it. -/
structure Opened where
  content : Nat
  position : Nat := 0
  /-- Whether writing always goes to the end. -/
  atEnd : Bool := false

/-- A process that has not ended. -/
structure Task where
  pid : Pid
  program : Program
  descriptors : Descriptors
  /-- When it goes on, if it sleeps. -/
  wake : Option Nanos := none
  /-- Whether it has been stopped for good. -/
  stopped : Bool := false
  /-- The signals that are held back. -/
  held : List Nat := []
  /-- The signals that were held back and not yet taken. -/
  pending : List Nat := []

/-- The machine. -/
structure Machine where
  files : FileTree
  opened : List (Nat × Opened) := []
  pipes : List (Nat × ByteArray) := []
  /-- The processes, in the order in which they were started. -/
  processes : List Task := []
  /-- How processes ended, the latest first. -/
  ended : List (Pid × Ending) := []
  clock : Nanos := 0
  /-- The next number for a process, a pipe or an open file. -/
  next : Nat := 100
  /-- What the run has used up: a unit for every byte written, and some for every process started and
  for memory taken up. -/
  spent : Nat := 0

namespace Machine

/-- The bytes that fit into a pipe. -/
def pipeSize : Nat := 65536

/-- What a run may use up. A run that uses up more goes on without end. -/
def allowance : Nat := 41943040

/-- What starting one process more uses up, when there are so many. -/
def startCost (running : Nat) : Nat := 64 * running

/-- Uses up an amount. -/
def spend (machine : Machine) (amount : Nat) : Machine :=
  { machine with spent := machine.spent + amount }

/-- How a process ended, if it did. -/
def ending? (machine : Machine) (pid : Pid) : Option Ending := machine.ended.lookup pid

/-- Replaces a process. -/
def update (machine : Machine) (process : Task) : Machine :=
  { machine with
    processes := machine.processes.map fun other =>
      if other.pid = process.pid then process else other }

/-- Ends a process. -/
def finish (machine : Machine) (pid : Pid) (ending : Ending) : Machine :=
  { machine with
    processes := machine.processes.filter (·.pid != pid)
    ended := (pid, ending) :: machine.ended }

/-- Starts a process. -/
def start (machine : Machine) (program : Program) (descriptors : Descriptors) : Pid × Machine :=
  let pid := machine.next
  (pid, { machine with
    processes := machine.processes ++ [{ pid, program, descriptors }]
    next := pid + 1
    spent := machine.spent + startCost machine.processes.length })

/-- Whether some process has an end of a pipe. -/
def holds (machine : Machine) (handle : Handle) : Bool :=
  machine.processes.any fun process => process.descriptors.any (·.2 == handle)

/-- Sets what is in a pipe. -/
def setPipe (machine : Machine) (pipe : Nat) (bytes : ByteArray) : Machine :=
  { machine with pipes := (pipe, bytes) :: machine.pipes.filter (·.1 != pipe) }

/-- Sets an open file. -/
def setOpened (machine : Machine) (number : Nat) (opened : Opened) : Machine :=
  { machine with opened := (number, opened) :: machine.opened.filter (·.1 != number) }

/-- How many open files or pipes there may be before those that nothing leads to are left out. -/
def clutter : Nat := 64

/-- Leaves out of entries, latest first, the old ones for which a condition does not hold. -/
def tidy {α : Type} (entries : List (Nat × α)) (isUsed : Nat → Bool) : List (Nat × α) :=
  if entries.length < clutter then entries
  else entries.take (clutter / 4) ++ (entries.drop (clutter / 4)).filter fun entry => isUsed entry.1

/-- Adds an open file. -/
def addOpened (machine : Machine) (opened : Opened) : Nat × Machine :=
  let number := machine.next
  let others := tidy machine.opened fun number => machine.holds (.file number)
  (number, { machine with opened := (number, opened) :: others, next := number + 1 })

/-- Adds a pipe. -/
def addPipe (machine : Machine) : Nat × Machine :=
  let number := machine.next
  let others := tidy machine.pipes fun number =>
    machine.holds (.reader number) || machine.holds (.writer number)
  (number, { machine with pipes := (number, .empty) :: others, next := number + 1 })

/-- Puts bytes at a position, filling a gap before it with zeros. -/
def overwrite (content bytes : ByteArray) (position : Nat) : ByteArray :=
  let gap := (List.replicate (position - content.size) (0 : UInt8)).toByteArray
  if position < content.size then
    content.extract 0 position ++ bytes ++ content.extract (position + bytes.size) content.size
  else content ++ gap ++ bytes

/-- Writes to an open file. -/
def writeFile (machine : Machine) (number : Nat) (bytes : ByteArray) : Machine :=
  match machine.opened.lookup number with
  | none => machine
  | some opened =>
    match machine.files.content? opened.content with
    | none => machine
    | some content =>
      let position := if opened.atEnd then content.bytes.size else opened.position
      let files := machine.files.setContent opened.content
        { content with bytes := overwrite content.bytes bytes position }
      ({ machine with files }).setOpened number { opened with position := position + bytes.size }

/-- Reads from an open file. -/
def readFile (machine : Machine) (number limit : Nat) : ByteArray × Machine :=
  match machine.opened.lookup number with
  | none => (.empty, machine)
  | some opened =>
    match machine.files.content? opened.content with
    | none => (.empty, machine)
    | some content =>
      let bytes := content.bytes.extract opened.position (opened.position + limit)
      (bytes, machine.setOpened number { opened with position := opened.position + bytes.size })

/-- Where the path of a device leads, for a process with such descriptors. -/
def device? (descriptors : Descriptors) : String → Option Handle
  | "/dev/null" => some .null
  | "/dev/zero" => some .zeros
  | "/dev/stdin" => descriptors.get? 0
  | "/dev/stdout" => descriptors.get? 1
  | "/dev/stderr" => descriptors.get? 2
  | _ => none

/-- Opens a file for a process. The device of a descriptor that leads to a file opens that file
again. -/
def openFile (machine : Machine) (descriptors : Descriptors) (here : List String) (path : String)
    (mode : Mode) : Except FileFault Handle × Machine :=
  match device? descriptors path with
  | some (.file number) =>
    match machine.opened.lookup number with
    | none => (.error .notFound, machine)
    | some opened =>
      let machine := match mode, machine.files.content? opened.content with
        | .write, some content =>
          { machine with
            files := machine.files.setContent opened.content { content with bytes := .empty } }
        | _, _ => machine
      let (number, machine) :=
        machine.addOpened { content := opened.content, atEnd := mode == Mode.append }
      (.ok (.file number), machine)
  | some handle => (.ok handle, machine)
  | none =>
    match mode with
    | .read =>
      match machine.files.find here path with
      | .error fault => (.error fault, machine)
      | .ok (_, .directory) => (.error .isADirectory, machine)
      | .ok (_, .file content) =>
        let (number, machine) := machine.addOpened { content }
        (.ok (.file number), machine)
    | _ =>
      match machine.files.openForWriting here path (mode == Mode.write) with
      | .error fault => (.error fault, machine)
      | .ok (files, content) =>
        let (number, machine) :=
          ({ machine with files }).addOpened { content, atEnd := mode == Mode.append }
        (.ok (.file number), machine)

/-- Whether what is still to be read from one handle is in the file that another one writes to. -/
def overlaps (machine : Machine) : Option Handle → Option Handle → Bool
  | some (.file source), some (.file target) =>
    match machine.opened.lookup source, machine.opened.lookup target with
    | some source, some target =>
      source.content == target.content
        && (machine.files.content? source.content).any fun content => source.position < content.bytes.size
    | _, _ => false
  | _, _ => false

/-- Sends a signal to a process, and tells whether it was there. -/
def signal (machine : Machine) (target : Pid) (signal : Nat) : Bool × Machine :=
  match machine.processes.find? (·.pid == target) with
  | none => ((machine.ending? target).isSome, machine)
  | some process =>
    if process.held.contains signal then
      (true, machine.update { process with pending := process.pending ++ [signal] })
    else if harmless signal then (true, machine)
    else if [19, 20, 21, 22].contains signal then
      (true, machine.update { process with stopped := true })
    else (true, machine.finish target (.signalled signal))

/-- Lets a process make its next system call; none when it has to wait. -/
def call (machine : Machine) (process : Task) : Option Machine :=
  let go (machine : Machine) (program : Program) : Option Machine :=
    some (machine.update { process with program })
  match process.program with
  | .exit status => some (machine.finish process.pid (.exited (status % 256)))
  | .read descriptor limit next =>
    match process.descriptors.get? descriptor with
    | some (.file number) =>
      let (bytes, machine) := machine.readFile number limit
      go machine (next (some bytes))
    | some (.reader pipe) =>
      let bytes := (machine.pipes.lookup pipe).getD .empty
      if bytes.size = 0 then
        if machine.holds (.writer pipe) then none else go machine (next (some .empty))
      else
        go (machine.setPipe pipe (bytes.extract limit bytes.size)) (next (some (bytes.extract 0 limit)))
    | some .null => go machine (next (some .empty))
    | some .zeros =>
      let bytes := (List.replicate limit (0 : UInt8)).toByteArray
      go (machine.spend limit) (next (some bytes))
    | _ => go machine (next none)
  | .write descriptor bytes next =>
    match process.descriptors.get? descriptor with
    | some (.file number) => go ((machine.writeFile number bytes).spend bytes.size) (next true)
    | some (.writer pipe) =>
      if bytes.size = 0 then go machine (next true)
      else if machine.holds (.reader pipe) then
        let present := (machine.pipes.lookup pipe).getD .empty
        let room := pipeSize - present.size
        if room = 0 then none
        else if bytes.size ≤ room then
          go ((machine.setPipe pipe (present ++ bytes)).spend bytes.size) (next true)
        else
          go ((machine.setPipe pipe (present ++ bytes.extract 0 room)).spend room)
            (.write descriptor (bytes.extract room bytes.size) next)
      else if process.held.contains 13 then go machine (next false)
      else some (machine.finish process.pid (.signalled 13))
    | some .null | some .zeros => go (machine.spend bytes.size) (next true)
    | _ => go machine (next false)
  | .sleep span next =>
    match process.wake with
    | none =>
      if span = 0 then go machine (next ())
      else some (machine.update { process with wake := some (machine.clock + span) })
    | some wake =>
      if wake ≤ machine.clock then
        some (machine.update { process with wake := none, program := next () })
      else none
  | .fork child next =>
    let (pid, machine) := machine.start child process.descriptors
    go machine (next pid)
  | .wait child next =>
    if machine.processes.any (·.pid == child) then none
    else (machine.ending? child).bind fun ending => go machine (next ending)
  | .kill target number next =>
    let waiting := machine.update { process with program := .self fun _ => next true }
    if (machine.signal target number).1 then some (waiting.signal target number).2
    else go machine (next false)
  | .self next => go machine (next process.pid)
  | .descriptors next => go machine (next process.descriptors)
  | .setDescriptors descriptors next =>
    some (machine.update { process with descriptors, program := next () })
  | .openFile here path mode next =>
    let (answer, machine) := machine.openFile process.descriptors here path mode
    go machine (next answer)
  | .pipe next =>
    let (number, machine) := machine.addPipe
    go machine (next (.reader number, .writer number))
  | .overlaps source target next =>
    go machine
      (next (machine.overlaps (process.descriptors.get? source) (process.descriptors.get? target)))
  | .look next => go machine (next machine.files)
  | .change files next => go { machine with files } (next ())
  | .spend amount next => go (machine.spend amount) (next ())
  | .hold signals next => some (machine.update { process with held := signals, program := next () })
  | .held next =>
    some (machine.update { process with pending := [], program := next process.pending })

/-- Lets the first process that need not wait make a call. -/
def advance (machine : Machine) : Option Machine :=
  machine.processes.findSome? fun process =>
    if process.stopped then none else machine.call process

/-- The earliest time after now that a process sleeps until. -/
def nextWake? (machine : Machine) : Option Nanos :=
  (machine.processes.filterMap fun process =>
    if process.stopped then none else process.wake).min?

/-- How a run of the machine came to its end. -/
inductive Halt
  /-- The condition came to hold. -/
  | reached
  /-- The clock reached the limit first. -/
  | limit
  /-- Neither can ever happen. -/
  | stuck
  deriving DecidableEq, Repr

/-- Runs the machine until a condition holds or the clock reaches a limit, for at most so many calls
and within the allowance. -/
def run (until_ : Machine → Bool) (limit : Option Nanos) : Nat → Machine → Halt × Machine
  | 0, machine => (.stuck, machine)
  | bound + 1, machine =>
    if until_ machine then (.reached, machine)
    else if machine.spent > allowance then (.stuck, machine)
    else
      match machine.advance with
      | some machine => run until_ limit bound machine
      | none =>
        match machine.nextWake?, limit with
        | some wake, some limit =>
          if wake < limit then run until_ (some limit) bound { machine with clock := wake }
          else (.limit, { machine with clock := limit })
        | some wake, none => run until_ none bound { machine with clock := wake }
        | none, _ => (.stuck, machine)

end Machine

end CodeJudge.Process
