import CodeJudge.CommandLine
import CodeJudge.Config.Decode
import CodeJudge.Dispatch.Rotation
import CodeJudge.Launch.World
import CodeJudge.Registry.Lease
import CodeJudge.Sandbox.Toolchain

/-!
# Starting a program

From the command line to the moment when a program serves, or to the reason why it does not: the
configuration is loaded, what the role needs is made ready, and a place to listen at is taken. The
first thing that fails ends the start.
-/

namespace CodeJudge.Launch

open CommandLine (Invocation Refusal)
open Store (Tables)

/-- A program that serves. -/
inductive Service
  | registry (registry : Registry) (prunePeriod : Nanos)
  | worker (toolchains : Sandbox.Toolchains) (root : String) (settings : WorkerSettings)
      (registry : RegistrySettings)
  /-- The coordinator, with the number of the content of its database. -/
  | coordinator (database : Nat) (policy : Dispatch.Policy) (registry : RegistrySettings)

/-- What starting a program led to. -/
inductive Outcome
  | refused (refusal : Refusal)
  | failed (fault : Fault)
  | serving (service : Service)

namespace Outcome

/-- The status that the program exits with, once it has been told to stop. -/
def status : Outcome → Nat
  | refused .usage => 2
  | refused _ => 0
  | failed _ => 1
  | serving _ => 0

/-- The causes of a fault as lines, numbered if there are several. -/
def causeLines : List String → List String
  | [] => []
  | [cause] => ["", "Caused by:", "    " ++ cause]
  | causes =>
    "" :: "Caused by:" :: causes.mapIdx fun index cause =>
      "    " ++ String.ofList (Decimal.digits index) ++ ": " ++ cause

/-- What the program says of a fault before it exits. -/
def faultReport (fault : Fault) : String :=
  match fault.causes with
  | [] => ""
  | first :: causes => String.join ((("Error: " ++ first) :: causeLines causes).map (· ++ "\n"))

/-- What the program says before it exits. -/
def report : Outcome → String
  | failed fault => faultReport fault
  | _ => ""

end Outcome

/-- The hosts of this machine that a server can listen at. -/
def localHosts : List String := ["localhost", "0.0.0.0", "::", "::1"]

/-- Whether a host is a number of four bytes, the first of which is given if it is. -/
def firstOfFour? (host : String) : Option Nat := do
  let bytes ← (host.splitOn ".").mapM fun text => do
    let n ← Decimal.readNat? text.toList
    if n < 256 then some n else none
  if bytes.length = 4 then bytes.head? else none

/-- Takes a place to listen at; `doing` says for whom. -/
def listen (doing host : String) : Except Fault Unit :=
  if localHosts.contains host then .ok ()
  else
    match firstOfFour? host with
    | some 127 => .ok ()
    | some _ => .error (.during doing (.other "Cannot assign requested address (os error 99)"))
    | none => .error (.during doing
        (.other "failed to lookup address information: Name or service not known"))

/-- Loads the configuration at a path. -/
def loadConfig (world : World) (path : String) : Except Fault Config :=
  let doing := "Failed to load configuration"
  match Config.load (world.readBytes path) with
  | .ok config => .ok config
  | .error (.file fault) => .error (.during doing (.file fault))
  | .error (.content _) => .error (.during doing (.other "not a configuration"))

/-- Starts the registry. -/
def startRegistry (config : Config) (world : World) : Except Fault Service × World :=
  let settings := config.registry
  let service : Service := .registry { ttl := Nanos.ofSeconds settings.ttlSeconds }
    (Nanos.ofSeconds (max settings.heartbeatSeconds 1))
  ((fun () => service) <$> listen "Failed to bind registry address" settings.bind.1, world)

/-- Starts a worker. The parent of its job directories is made. -/
def startWorker (config : Config) (world : World) : Except Fault Service × World :=
  let settings := config.worker
  match Sandbox.Toolchains.ofConfig config.languages with
  | .error fault => (.error (.other fault.message), world)
  | .ok toolchains =>
    let root := settings.workRoot.getD world.directories.workRoot
    match world.makeDirectories root with
    | .error fault => (.error (.during ("failed to create " ++ root) (.file fault)), world)
    | .ok world =>
      let service : Service := .worker toolchains root settings config.registry
      ((fun () => service) <$> listen "Failed to bind worker address" settings.bind.1, world)

/-- The path of the coordinator's database. Without a setting it lies in the data directory, which is
made. -/
def databasePath (config : Config) (world : World) : Except Fault (String × World) :=
  match config.coordinator.database with
  | some path => .ok (path, world)
  | none =>
    match world.makeDirectories world.directories.data with
    | .ok world => .ok (world.directories.database, world)
    | .error fault => .error (.during "Failed to create local data dir" (.file fault))

/-- The files that belong to a database beside its own. -/
def sideFiles (path : String) : List String := [path ++ "-wal", path ++ "-shm"]

/-- Brings the configured users and problems into a database. -/
def seedInto (config : Config) (world : World) (content : Nat) (tables : Tables) :
    Except Fault World := do
  let tables ← tables.seed world.readText config.users config.problems
  return world.keep content tables

/-- Starts the coordinator, with an empty database if asked to. -/
def startCoordinator (config : Config) (flush : Bool) (world : World) :
    Except Fault Service × World :=
  match databasePath config world with
  | .error fault => (.error fault, world)
  | .ok (path, world) =>
    let world := if flush then (path :: sideFiles path).foldl World.removeFile world else world
    match world.openDatabase path with
    | .error fault => (.error (.during "Failed to initialize database" fault), world)
    | .ok (content, tables, world) =>
      let world := world.keep content tables
      match seedInto config world content tables with
      | .error fault => (.error fault, world)
      | .ok world =>
        let policy : Dispatch.Policy :=
          { service := config.worker.serviceName
            attempts := config.coordinator.attempts }
        let service : Service := .coordinator content policy config.registry
        ((fun () => service) <$> listen "Failed to bind coordinator address" config.coordinator.bind.1,
          world)

/-- Starts the program of a role. -/
def startRole (config : Config) (role : CommandLine.Role) (world : World) :
    Except Fault Service × World :=
  match role with
  | .registry => startRegistry config world
  | .worker => startWorker config world
  | .coordinator flush => startCoordinator config flush world

/-- Starts a program by its command line, the program's own name first. -/
def start (arguments : List String) (world : World) : Outcome × World :=
  match CommandLine.parse arguments with
  | .error refusal => (.refused refusal, world)
  | .ok invocation =>
    match loadConfig world invocation.config with
    | .error fault => (.failed fault, world)
    | .ok config =>
      match startRole config invocation.role world with
      | (.ok service, world) => (.serving service, world)
      | (.error fault, world) => (.failed fault, world)

end CodeJudge.Launch
