import CodeJudge.Http.Network
import CodeJudge.Http.Url
import CodeJudge.Registry.Instance
import CodeJudge.Store.Fault

/-!
# The registry's clients

How workers and the coordinator talk to a registry. The names of services and instances become parts
of an address as they are.
-/

namespace CodeJudge.Registry

open Http (Method Request Transport Url)

/-- A client of the registry at an address. -/
structure Client (W : Type) where
  transport : Transport W
  address : String

namespace Client

variable {W : Type}

/-- The text of the address of a service. -/
def serviceAddress (client : Client W) (service : String) : String :=
  "http://" ++ client.address ++ "/registry/" ++ service

/-- The text of the address of an instance. -/
def instanceAddress (client : Client W) (service id : String) : String :=
  client.serviceAddress service ++ "/" ++ id

/-- Sends a request to an address, and gives the body of its answer. -/
def call (client : Client W) (address : String) (request : String → Request) (doing : String) :
    StateM W (Except Fault Bytes) := do
  let url := Url.ofText address
  match ← client.transport.send url.authority (request url.target) with
  | .error text => return .error (.during doing (.other text))
  | .ok received => return received.accept.mapError fun text => .during doing (.other text)

/-- Registers an instance, or renews its lease. -/
def register (client : Client W) (service : String) (instance_ : Instance) :
    StateM W (Except Fault Unit) := do
  let answer ← client.call (client.serviceAddress service)
    (Request.ofJson .put · instance_.toJson) ("failed to register " ++ instance_.id ++ " under " ++ service)
  return answer.map fun _ => ()

/-- Takes an instance out of the registry. -/
def deregister (client : Client W) (service id : String) : StateM W (Except Fault Unit) := do
  let answer ← client.call (client.instanceAddress service id)
    ({ method := .delete, target := · }) ("failed to deregister " ++ id ++ " from " ++ service)
  return answer.map fun _ => ()

/-- The addresses of the live instances of a service. -/
def resolve (client : Client W) (service : String) : StateM W (Except Fault (List String)) := do
  match ← client.call (client.serviceAddress service) ({ method := .get, target := · })
      ("failed to resolve " ++ service) with
  | .error fault => return .error fault
  | .ok body =>
    match Json.decodeBytes (Json.list Instance.decode) body with
    | .ok instances => return .ok (instances.map (·.address))
    | .error _ => return .error (.other "error decoding response body")

end Client

end CodeJudge.Registry
