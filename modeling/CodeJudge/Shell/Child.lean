import CodeJudge.Shell.State

/-!
# Processes that a shell starts

A shell starts processes for tools, for subshells, for the parts of a pipeline and for what runs in
the background. It waits for those in the foreground, and tells of one that a signal ended.
-/

namespace CodeJudge.Shell

open Process (Pid Action Ending)

/-- The system's words for the end by a signal. -/
def obituary : List (Nat × String) :=
  [(1, "Hangup"), (3, "Quit"), (4, "Illegal instruction"), (5, "Trace/breakpoint trap"),
    (6, "Aborted"), (7, "Bus error"), (8, "Floating point exception"), (9, "Killed"),
    (10, "User defined signal 1"), (11, "Segmentation fault"), (12, "User defined signal 2"),
    (14, "Alarm clock"), (15, "Terminated")]

/-- The status that stands for an ending. -/
def statusOf : Ending → Nat
  | .exited status => status
  | .signalled signal => 128 + signal

/-- What a process started by a shell takes over of what is to be done on signals: the signals that
are ignored. -/
def State.ignored (state : State) : List (Nat × Octets) := state.traps.filter (·.2.isEmpty)

/-- The state in which a part of a script begins in a process of its own. -/
def State.apart (state : State) : State := { state with traps := state.ignored, jobs := [] }

/-- Starts a process that goes on with an action of its own: only the signals that are ignored are
held back, and it has only the descriptors that it can name. -/
def spawn (state : State) (action : Action Nat) : Action Pid :=
  Action.fork (Action.program (do
    Action.hold (state.ignored.map (·.1))
    let descriptors ← Action.descriptors
    Action.setDescriptors descriptors.visible
    action))

/-- Waits for a process in the foreground, and tells of a signal that ended it. -/
def await (pid : Pid) : Action Nat := do
  let ending ← Action.wait pid
  match ending with
  | .signalled signal =>
    match obituary.lookup signal with
    | some text => Tools.put 2 (Octets.ofText (text ++ "\n"))
    | none => pure ()
  | .exited _ => pure ()
  return statusOf ending

/-- Waits for processes; the status is that of the last. -/
def awaitAll (status : Nat) : List Pid → Action Nat
  | [] => pure status
  | pid :: rest => do
    let status ← await pid
    awaitAll status rest

end CodeJudge.Shell
