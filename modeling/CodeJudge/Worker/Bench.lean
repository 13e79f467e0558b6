import CodeJudge.Resolver.Timed
import CodeJudge.Sandbox.Execute
import CodeJudge.Worker.Judge

/-!
# The bench of a host

Judging with the operations of a host. The cases of a job are run one after another, each from time
zero on a clock of its own; since all of them would start together, the times that they take tell how
the race between them ends.
-/

namespace CodeJudge.Worker

open Sandbox (Artifact Case Host)
open Resolver (Script Resolution)

/-- What the directory of a job is named after: the user, and a part that makes it unique. -/
def directoryStart (user : Int64) : String := "job-" ++ Job.number user.toInt ++ "-"

/-- Runs an artifact on cases, and tells when each finished within the budget, and how. -/
def runCases {W : Type} (host : Host W) (artifact : Artifact) (budget : Nanos) (memoryLimit : Nat) :
    List Case → StateM W Script
  | [] => return []
  | case :: rest => do
    let report ← Sandbox.execute host artifact case memoryLimit (some budget)
    let others ← runCases host artifact budget memoryLimit rest
    return (report.map fun report => (report.elapsed, .ok report)) :: others

/-- The bench of a host, with jobs below `root` and a time for each compilation. -/
def Bench.ofHost {W : Type} (host : Host W) (root : String) (compileTime : Nanos) : Bench W where
  makeDirectory user := host.makeDirectory root (directoryStart user)
  compile toolchain directory source := Sandbox.compile host toolchain directory source compileTime
  resolve artifact cases budget memoryLimit := do
    let script ← runCases host artifact budget memoryLimit cases
    return (Resolver.timed script budget).2
  removeDirectory := host.removeDirectory

end CodeJudge.Worker
