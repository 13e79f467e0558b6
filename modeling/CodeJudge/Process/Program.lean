import CodeJudge.Clock
import CodeJudge.Files.Tree

/-!
# Programs

A program as a tree of system calls: each call carries what the program does with the answer. The
machine that runs programs (`Process.Machine`) sees one call at a time, so it can stop a program
between any two of them, let time pass, or kill it.

A program that would never end has no such tree. Those are built with a bound on their calls, chosen
so large that no run comes to it.
-/

namespace CodeJudge.Process

/-- The number of a process. -/
abbrev Pid := Nat

/-- How a process ended. -/
inductive Ending
  /-- It left with a status, below 256. -/
  | exited (status : Nat)
  /-- A signal ended it. -/
  | signalled (signal : Nat)
  deriving DecidableEq, Repr

/-- What a descriptor of a process leads to. -/
inductive Handle
  /-- An open file, with the number of its position. -/
  | file (opened : Nat)
  /-- The end of a pipe that is read from. -/
  | reader (pipe : Nat)
  /-- The end of a pipe that is written to. -/
  | writer (pipe : Nat)
  /-- Empty when read, and forgets what is written. -/
  | null
  /-- Zeros without end when read, and forgets what is written. -/
  | zeros
  deriving DecidableEq, Repr

/-- The descriptors of a process. -/
abbrev Descriptors := List (Nat × Handle)

namespace Descriptors

/-- Where a descriptor leads. -/
def get? (descriptors : Descriptors) (number : Nat) : Option Handle := descriptors.lookup number

/-- Makes a descriptor lead elsewhere. -/
def set (descriptors : Descriptors) (number : Nat) (handle : Handle) : Descriptors :=
  (number, handle) :: descriptors.filter (·.1 != number)

/-- Closes a descriptor. -/
def close (descriptors : Descriptors) (number : Nat) : Descriptors :=
  descriptors.filter (·.1 != number)

/-- The descriptors that a program can name. -/
def visible (descriptors : Descriptors) : Descriptors := descriptors.filter (·.1 < 64)

/-- The descriptors with a second set behind them that no program can name. What they lead to stays
open while the first set is changed. -/
def kept (descriptors : Descriptors) : Descriptors :=
  let first := (descriptors.map (·.1)).foldl max 63 + 1
  descriptors ++ descriptors.visible.mapIdx fun i entry => (first + i, entry.2)

end Descriptors

/-- How a file is opened. -/
inductive Mode
  | read
  /-- For writing, emptied. -/
  | write
  /-- For writing at its end. -/
  | append
  deriving DecidableEq, Repr

/-- A program: the system call it makes next, and how it goes on. -/
inductive Program
  | exit (status : Nat)
  /-- Reads up to so many bytes. The answer is empty at the end, and none for a bad descriptor. -/
  | read (descriptor limit : Nat) (next : Option ByteArray → Program)
  /-- Writes all of the bytes. The answer tells whether the descriptor was good. -/
  | write (descriptor : Nat) (bytes : ByteArray) (next : Bool → Program)
  | sleep (span : Nanos) (next : Unit → Program)
  | fork (child : Program) (next : Pid → Program)
  /-- Waits for a child. -/
  | wait (child : Pid) (next : Ending → Program)
  /-- Sends a signal. The answer tells whether there was such a process. -/
  | kill (target : Pid) (signal : Nat) (next : Bool → Program)
  | self (next : Pid → Program)
  | descriptors (next : Descriptors → Program)
  | setDescriptors (descriptors : Descriptors) (next : Unit → Program)
  /-- Opens the file at a path, seen from a directory. -/
  | openFile (here : List String) (path : String) (mode : Mode)
      (next : Except FileFault Handle → Program)
  | pipe (next : Handle × Handle → Program)
  /-- Asks whether what is still to be read behind one descriptor is in the file that another one
  writes to. -/
  | overlaps (source target : Nat) (next : Bool → Program)
  /-- Looks at the files. -/
  | look (next : FileTree → Program)
  /-- Replaces the files. -/
  | change (files : FileTree) (next : Unit → Program)
  /-- Takes up so much memory. -/
  | spend (amount : Nat) (next : Unit → Program)
  /-- Says which signals are to be held back instead of ending the process. -/
  | hold (signals : List Nat) (next : Unit → Program)
  /-- Takes the signals that were held back. -/
  | held (next : List Nat → Program)

/-- An action with an answer: given how to go on with the answer, a program. -/
def Action (α : Type) : Type := (α → Program) → Program

namespace Action

instance : Monad Action where
  pure a next := next a
  bind action f next := action fun a => f a next

/-- Reads up to so many bytes. -/
def read (descriptor limit : Nat) : Action (Option ByteArray) :=
  Program.read descriptor limit
/-- Writes bytes; whether the descriptor was good. -/
def write (descriptor : Nat) (bytes : ByteArray) : Action Bool :=
  Program.write descriptor bytes
/-- Lets time pass. -/
def sleep (span : Nanos) : Action Unit :=
  Program.sleep span
/-- Starts a child. -/
def fork (child : Program) : Action Pid :=
  Program.fork child
/-- Waits for a child to end. -/
def wait (child : Pid) : Action Ending :=
  Program.wait child
/-- Sends a signal. -/
def kill (target : Pid) (signal : Nat) : Action Bool :=
  Program.kill target signal
/-- The number of this process. -/
def self : Action Pid :=
  Program.self
/-- The descriptors of this process. -/
def descriptors : Action Descriptors :=
  Program.descriptors
/-- Replaces the descriptors of this process. -/
def setDescriptors (descriptors : Descriptors) : Action Unit :=
  Program.setDescriptors descriptors
/-- Opens a file. -/
def openFile (here : List String) (path : String) (mode : Mode) : Action (Except FileFault Handle) :=
  Program.openFile here path mode
/-- Makes a pipe: its reading end and its writing end. -/
def pipe : Action (Handle × Handle) :=
  Program.pipe
/-- Whether what is still to be read behind one descriptor is in the file that another one writes
to. -/
def overlaps (source target : Nat) : Action Bool :=
  Program.overlaps source target
/-- The files as they are. -/
def look : Action FileTree :=
  Program.look
/-- Replaces the files. -/
def change (files : FileTree) : Action Unit :=
  Program.change files
/-- Takes up so much memory. -/
def spend (amount : Nat) : Action Unit :=
  Program.spend amount
/-- Says which signals are to be held back. -/
def hold (signals : List Nat) : Action Unit :=
  Program.hold signals
/-- The signals held back since the last time. -/
def held : Action (List Nat) :=
  Program.held
/-- Ends the process. -/
def exit {α : Type} (status : Nat) : Action α := fun _ => Program.exit status

/-- The program that ends with the status that an action answers. -/
def program (action : Action Nat) : Program := action Program.exit

end Action

/-- The names of signals, by number. -/
def signalNames : List (Nat × String) :=
  [(1, "HUP"), (2, "INT"), (3, "QUIT"), (4, "ILL"), (5, "TRAP"), (6, "ABRT"), (7, "BUS"), (8, "FPE"),
    (9, "KILL"), (10, "USR1"), (11, "SEGV"), (12, "USR2"), (13, "PIPE"), (14, "ALRM"), (15, "TERM"),
    (16, "STKFLT"), (17, "CHLD"), (18, "CONT"), (19, "STOP"), (20, "TSTP"), (21, "TTIN"), (22, "TTOU"),
    (23, "URG"), (24, "XCPU"), (25, "XFSZ"), (26, "VTALRM"), (27, "PROF"), (28, "WINCH"), (29, "IO"),
    (30, "PWR"), (31, "SYS")]

/-- The signals that do nothing to a process that does not ask for them. -/
def harmless (signal : Nat) : Bool := [0, 17, 18, 23, 28].contains signal

/-- Whether a process ended well. -/
def Ending.succeeded : Ending → Bool
  | exited status => status = 0
  | signalled _ => false

/-- A number in a message. -/
def number (n : Nat) : String := toString n

/-- How an ending is described. -/
def Ending.message : Ending → String
  | exited status => "exit status: " ++ number status
  | signalled signal =>
    "signal: " ++ number signal
      ++ match signalNames.lookup signal with
        | some name => " (SIG" ++ name ++ ")"
        | none => ""

end CodeJudge.Process
