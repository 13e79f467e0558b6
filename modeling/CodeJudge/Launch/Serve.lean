import CodeJudge.Coordinator.Server
import CodeJudge.Dispatch.Remote
import CodeJudge.Launch.Start
import CodeJudge.Registry.Client
import CodeJudge.Registry.Server
import CodeJudge.Shell.Host
import CodeJudge.Timestamp
import CodeJudge.Worker.Bench
import CodeJudge.Worker.Server

/-!
# Serving

A program that has started, answering one request after another. Requests and answers are lines of
JSON here, and programs on this machine do not reach each other: a coordinator finds no registry, so
that every job it dispatches fails.
-/

namespace CodeJudge.Launch

open Http (Request Response Transport)
open Json (Field Record Decoder Value)
open Store (Database)

/-- What a serving program keeps between requests. -/
structure Serving where
  world : World
  service : Service
  /-- The counter of the coordinator's rotation. -/
  counter : UInt64 := 0

/-- When a request is answered. -/
structure Moment where
  /-- On a clock that never goes back. -/
  clock : Nanos
  /-- Since the beginning of 1970. -/
  milliseconds : Nat

/-- Acts on the files of the world. -/
def onFiles {α : Type} (action : StateM FileTree α) : StateM Serving α := fun serving =>
  let (a, files) := action.run serving.world.files
  (a, { serving with world := { serving.world with files } })

/-- Has a job judged by a worker of the registry. -/
def judgeRemotely (policy : Dispatch.Policy) (settings : RegistrySettings) (job : Job) :
    StateM Serving (Except Fault JobResult) := do
  let transport : Transport Serving := .isolated
  let client : Registry.Client Serving := { transport, address := settings.address }
  let (answer, counter) ←
    Dispatch.dispatch policy client.resolve (Dispatch.callWorker transport) job (← get).counter
  modify fun serving => { serving with counter }
  return answer

/-- Answers a request to the coordinator, whose database has the given number. -/
def serveCoordinator (moment : Moment) (content : Nat) (policy : Dispatch.Policy)
    (settings : RegistrySettings) (request : Request) : StateM Serving Response := do
  let tables := ((← get).world.databases.lookup content).getD {}
  let (response, database, _) ← Coordinator.serve (judgeRemotely policy settings) (fun _ => none)
    (Timestamp.ofMilliseconds moment.milliseconds) { tables } request
  modify fun serving => { serving with world := serving.world.keep content database.tables }
  return response

/-- Answers a request; a request may get no answer. -/
def serve (moment : Moment) (request : Request) : StateM Serving (Option Response) := do
  match (← get).service with
  | .registry registry period =>
    let (response, registry) := (Registry.serve moment.clock request).run registry
    modify fun serving => { serving with service := .registry registry period }
    return response
  | .worker toolchains root settings _ =>
    let bench := Worker.Bench.ofHost Shell.host root (Nanos.ofSeconds settings.compileSeconds)
    return some (← onFiles (Worker.serve bench toolchains request))
  | .coordinator content policy settings =>
    return some (← serveCoordinator moment content policy settings request)

/-- The fields of a request as a line. -/
def requestRecord :=
  (Record.also (Field.record { name := "method", decode := Json.text })
  (Record.also (Field.record { name := "path", decode := Json.text })
  (Record.also (Config.open? "content_type" Json.text)
  (Config.open? "body" Json.text)))).map
    fun (method, target, contentType, body) =>
      ({ method := .ofText method
         target
         contentType
         body := (body.map Utf8.encode).getD [] } : Request)

/-- Reads a request from a line. -/
def Request.ofLine? (line : String) : Option Request :=
  (Json.decodeText requestRecord.decode line).toOption

/-- An answer as a line. -/
def lineOf : Option Response → String
  | some response =>
    (Value.object [("status", .int response.status), ("body", response.body.getD .null)]).render
  | none => Value.null.render

/-- Answers a line; a line that is no request is answered as a request that leads nowhere. -/
def serveLine (moment : Moment) (line : String) : StateM Serving String := do
  match Request.ofLine? line with
  | some request => return lineOf (← serve moment request)
  | none => return lineOf (some Http.nowhere)

end CodeJudge.Launch
