import CodeJudge.Launch.Serve
import Std.Time.DateTime.Timestamp

/-!
# The program

The outermost layer: it fetches the files that the configuration names and the environment, starts the
role that the command line asks for, and then answers the requests on its standard input, one a line,
until that ends.
-/

namespace CodeJudge.Launch

/-- The fault that an error of the system stands for. -/
def faultOf : IO.Error → FileFault
  | .noFileOrDirectory .. => .notFound
  | .permissionDenied .. => .permissionDenied
  | .inappropriateType .. => .isADirectory
  | _ => .notFound

/-- Copies a file of the machine into the world. -/
def fetch (world : World) (path : String) : IO World := do
  try
    let bytes ← IO.FS.readBinFile path
    let directory := (Path.segments path).dropLast
    let start := if Path.isAbsolute path then [] else world.here
    let made := do
      let files ← world.files.makeDirectories start directory
      files.write world.here path bytes
    match made with
    | .ok files => return { world with files }
    | .error _ => return world
  catch error =>
    match faultOf error with
    | .isADirectory => return (world.makeDirectories path).toOption.getD world
    | _ => return world

/-- The files that the cases of a configuration are read from. -/
def caseFiles (config : Config) : List String :=
  config.problems.flatMap fun problem =>
    problem.cases.flatMap fun entry => entry.inputFile.toList ++ entry.answerFile.toList

/-- The world that the program starts in. -/
def worldFor (arguments : List String) : IO World := do
  let home := (← IO.getEnv "HOME").getD "/"
  let world : World :=
    { files := {}
      directories :=
        { home
          dataHome := ← IO.getEnv "XDG_DATA_HOME"
          cacheHome := ← IO.getEnv "XDG_CACHE_HOME" } }
  match CommandLine.parse arguments with
  | .error _ => return world
  | .ok invocation =>
    let world ← fetch world invocation.config
    match loadConfig world invocation.config with
    | .error _ => return world
    | .ok config => (caseFiles config).foldlM fetch world

/-- The time. -/
def momentNow : IO Moment := do
  let sinceEpoch := (← Std.Time.Timestamp.now).toMillisecondsSinceUnixEpoch
  return { clock := ← IO.monoNanosNow, milliseconds := sinceEpoch.val.toNat }

/-- Answers requests until there are no more. -/
partial def serveAll (serving : Serving) : IO Unit := do
  let line ← (← IO.getStdin).getLine
  if line.isEmpty then return
  let (answer, serving) := (serveLine (← momentNow) line).run serving
  let output ← IO.getStdout
  output.putStrLn answer
  output.flush
  serveAll serving

/-- How the program is used. -/
def usage : String := "Usage: oj --config <CONFIG> <registry|worker|coordinator [--flush-data]>"

/-- The name and the version of the program. -/
def versionText : String := "oj 0.1.0"

/-- Starts the program, and serves if it comes to that; the status that it exits with. -/
def runProgram (arguments : List String) : IO UInt32 := do
  let arguments := "oj" :: arguments
  let (outcome, world) := start arguments (← worldFor arguments)
  match outcome with
  | .refused .help => IO.println usage
  | .refused .version => IO.println versionText
  | .refused .usage => IO.eprintln usage
  | .failed _ => IO.eprint outcome.report
  | .serving service => serveAll { world, service }
  return outcome.status.toUInt32

end CodeJudge.Launch

/-- The program. -/
def main (arguments : List String) : IO UInt32 := CodeJudge.Launch.runProgram arguments
