import CodeJudge.Json.Decoder
import CodeJudge.Files.Fault

/-!
# Configuration

The one file that configures registry, worker and coordinator, and what it says about languages,
problems and users. Every section and every setting that has a default may be left out.
-/

namespace CodeJudge

/-- The name that judging workers register under. -/
def judgeService : String := "judge-worker"

/-- The settings of the registry, and of its clients. -/
structure RegistrySettings where
  /-- Where clients reach the registry, as host and port. -/
  address : String := "127.0.0.1:2379"
  bindAddress : Option String := none
  bindPort : Option Nat := none
  /-- The length of a lease. -/
  ttlSeconds : Nat := 15
  /-- How often a worker renews its lease. -/
  heartbeatSeconds : Nat := 5
  /-- The most time that one call to the registry may take. -/
  timeoutSeconds : Nat := 5
  deriving DecidableEq, Repr

/-- Where the registry listens. -/
def RegistrySettings.bind (settings : RegistrySettings) : String × Nat :=
  (settings.bindAddress.getD "127.0.0.1", settings.bindPort.getD 2379)

/-- The settings of a worker. -/
structure WorkerSettings where
  bindAddress : Option String := none
  bindPort : Option Nat := none
  /-- The address published to the registry. -/
  advertiseAddress : Option String := none
  serviceName : String := judgeService
  /-- The parent of the directories that jobs run in. -/
  workRoot : Option String := none
  compileSeconds : Nat := 30
  deriving DecidableEq, Repr

/-- Where the worker listens. -/
def WorkerSettings.bind (settings : WorkerSettings) : String × Nat :=
  (settings.bindAddress.getD "127.0.0.1", settings.bindPort.getD 8081)

/-- The address published to the registry: where the worker listens, unless it is given. -/
def WorkerSettings.advertise (settings : WorkerSettings) : String :=
  settings.advertiseAddress.getD <|
    settings.bind.1 ++ ":" ++ String.ofList (Decimal.digits settings.bind.2)

/-- The settings of the coordinator. -/
structure CoordinatorSettings where
  bindAddress : Option String := none
  bindPort : Option Nat := none
  /-- The file that holds the store. -/
  database : Option String := none
  /-- How many calls are made to deliver one job. -/
  attempts : Nat := 3
  callSeconds : Nat := 120
  deriving DecidableEq, Repr

/-- Where the coordinator listens. -/
def CoordinatorSettings.bind (settings : CoordinatorSettings) : String × Nat :=
  (settings.bindAddress.getD "127.0.0.1", settings.bindPort.getD 12345)

/-- How one language is compiled and run. Commands are templates whose arguments may hold
placeholders. -/
structure LanguageEntry where
  language : String
  fileName : String
  compile : Option (List String)
  run : List String
  deriving DecidableEq, Repr

/-- A test case, given as text or as a pair of files. -/
structure CaseEntry where
  input : Option String := none
  inputFile : Option String := none
  expected : Option String := none
  answerFile : Option String := none
  deriving DecidableEq, Repr

/-- One side of a case: the text, else what the file holds, else nothing. -/
def CaseEntry.side (read : String → Except FileFault String) (text file : Option String) :
    Except FileFault String :=
  match text, file with
  | some text, _ => .ok text
  | none, some path => read path
  | none, none => .ok ""

/-- The input and the expected output of a case. The input is read first. -/
def CaseEntry.load (read : String → Except FileFault String) (entry : CaseEntry) :
    Except FileFault (String × String) := do
  let input ← side read entry.input entry.inputFile
  let expected ← side read entry.expected entry.answerFile
  return (input, expected)

/-- A problem to be put into the store. -/
structure ProblemEntry where
  id : Int
  name : String
  /-- In milliseconds. -/
  timeLimit : Nat
  /-- In KiB. -/
  memoryLimit : Nat
  cases : List CaseEntry
  deriving DecidableEq, Repr

/-- A user to be put into the store. -/
structure UserEntry where
  id : Int
  name : String
  deriving DecidableEq, Repr

/-- The whole configuration. -/
structure Config where
  registry : RegistrySettings := {}
  worker : WorkerSettings := {}
  coordinator : CoordinatorSettings := {}
  languages : List LanguageEntry := []
  problems : List ProblemEntry := []
  users : List UserEntry := []
  deriving DecidableEq, Repr

end CodeJudge
