import CodeJudge.Config

/-!
# Reading a configuration

The JSON form of the configuration. A setting with a default takes it both when an object leaves it
out and when an array ends before it; `null` stands for none only where a setting may be none.
-/

namespace CodeJudge

open Json (Field Record Decoder)

namespace Config

/-- A field that must be given. -/
def required {α : Type} (name : String) (decode : Decoder α) : Record (Option α) α :=
  Field.record { name, decode }

/-- A field with a default. -/
def defaulted {α : Type} (name : String) (decode : Decoder α) (value : α) : Record (Option α) α :=
  Field.record { name, decode, absent := some value, cut := some value }

/-- A field that may be none, in a record whose fields all have defaults. -/
def open? {α : Type} (name : String) (decode : Decoder α) : Record (Option (Option α)) (Option α) :=
  defaulted name (Json.optional decode) none

/-- The fields of the registry's settings. -/
def registryRecord :=
  (Record.also (defaulted "address" Json.text ({} : RegistrySettings).address)
  (Record.also (open? "bind_address" Json.text)
  (Record.also (open? "bind_port" (Json.natural Decimal.uint16))
  (Record.also (defaulted "ttl_secs" (Json.natural Decimal.uint64) ({} : RegistrySettings).ttlSeconds)
  (Record.also
    (defaulted "heartbeat_secs" (Json.natural Decimal.uint64) ({} : RegistrySettings).heartbeatSeconds)
    (defaulted "request_timeout_secs" (Json.natural Decimal.uint64)
      ({} : RegistrySettings).timeoutSeconds)))))).map
    fun (address, bindAddress, bindPort, ttlSeconds, heartbeatSeconds, timeoutSeconds) =>
      ({ address, bindAddress, bindPort, ttlSeconds, heartbeatSeconds, timeoutSeconds } :
        RegistrySettings)

/-- The fields of a worker's settings. -/
def workerRecord :=
  (Record.also (open? "bind_address" Json.text)
  (Record.also (open? "bind_port" (Json.natural Decimal.uint16))
  (Record.also (open? "advertise_address" Json.text)
  (Record.also (defaulted "service_name" Json.text ({} : WorkerSettings).serviceName)
  (Record.also (open? "work_root" Json.text)
  (defaulted "compile_timeout_secs" (Json.natural Decimal.uint64)
    ({} : WorkerSettings).compileSeconds)))))).map
    fun (bindAddress, bindPort, advertiseAddress, serviceName, workRoot, compileSeconds) =>
      ({ bindAddress, bindPort, advertiseAddress, serviceName, workRoot, compileSeconds } :
        WorkerSettings)

/-- The fields of the coordinator's settings. -/
def coordinatorRecord :=
  (Record.also (open? "bind_address" Json.text)
  (Record.also (open? "bind_port" (Json.natural Decimal.uint16))
  (Record.also (open? "database" Json.text)
  (Record.also
    (defaulted "dispatch_attempts" (Json.natural Decimal.uint64) ({} : CoordinatorSettings).attempts)
    (defaulted "rpc_timeout_secs" (Json.natural Decimal.uint64)
      ({} : CoordinatorSettings).callSeconds))))).map
    fun (bindAddress, bindPort, database, attempts, callSeconds) =>
      ({ bindAddress, bindPort, database, attempts, callSeconds } : CoordinatorSettings)

/-- The fields of a language. An object may leave out the compile command; an array may not. -/
def languageRecord :=
  (Record.also (required "language" Json.text)
  (Record.also (required "file_name" Json.text)
  (Record.also (Field.record {
    name := "compile", decode := Json.optional (Json.list Json.text), absent := some none })
  (required "run" (Json.list Json.text))))).map
    fun (language, fileName, compile, run) =>
      ({ language, fileName, compile, run } : LanguageEntry)

/-- The fields of a case. -/
def caseRecord :=
  (Record.also (open? "input" Json.text)
  (Record.also (open? "input_file" Json.text)
  (Record.also (open? "expected" Json.text)
  (open? "answer_file" Json.text)))).map
    fun (input, inputFile, expected, answerFile) =>
      ({ input, inputFile, expected, answerFile } : CaseEntry)

/-- The fields of a problem. -/
def problemRecord :=
  (Record.also (required "id" (Json.integer Decimal.int64))
  (Record.also (required "name" Json.text)
  (Record.also (required "time_limit" (Json.natural Decimal.uint32))
  (Record.also (required "memory_limit" (Json.natural Decimal.uint32))
  (required "cases" (Json.list caseRecord.decode)))))).map
    fun (id, name, timeLimit, memoryLimit, cases) =>
      ({ id, name, timeLimit, memoryLimit, cases } : ProblemEntry)

/-- The fields of a user. -/
def userRecord :=
  (Record.also (required "id" (Json.integer Decimal.int64))
  (required "name" Json.text)).map
    fun (id, name) => ({ id, name } : UserEntry)

/-- The sections of the configuration. -/
def record :=
  (Record.also (defaulted "registry" registryRecord.decode {})
  (Record.also (defaulted "worker" workerRecord.decode {})
  (Record.also (defaulted "coordinator" coordinatorRecord.decode {})
  (Record.also (defaulted "languages" (Json.list languageRecord.decode) [])
  (Record.also (defaulted "problems" (Json.list problemRecord.decode) [])
  (defaulted "users" (Json.list userRecord.decode) [])))))).map
    fun (registry, worker, coordinator, languages, problems, users) =>
      ({ registry, worker, coordinator, languages, problems, users } : Config)

/-- Reads a configuration. -/
def decode : Decoder Config := record.decode

/-- Why a configuration cannot be loaded. -/
inductive LoadError
  | file (fault : FileFault)
  | content (error : Json.DecodeError)
  deriving DecidableEq, Repr

/-- Loads a configuration from what a file holds. -/
def load (content : Except FileFault Bytes) : Except LoadError Config :=
  match content with
  | .error fault => .error (.file fault)
  | .ok bytes =>
    match Json.decodeBytes decode bytes with
    | .ok config => .ok config
    | .error error => .error (.content error)

end Config

end CodeJudge
