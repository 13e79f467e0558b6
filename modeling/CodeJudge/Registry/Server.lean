import CodeJudge.Http.Message
import CodeJudge.Registry.Lease

/-!
# The registry server

Registering, deregistering and listing over HTTP. The server looks at its clock once for every
request.
-/

namespace CodeJudge.Registry

open Http (Request Response ApiError)

/-- The first part of every path. -/
def root : String := "registry"

/-- What a request asks of the registry. -/
inductive Asked
  | register (service : String)
  | deregister (service id : String)
  | list (service : String)
  deriving DecidableEq, Repr

/-- What a request asks for, by its method and path. No part of a path may be empty. -/
def Asked.of? (request : Request) : Option Asked :=
  match request.method, Http.partsOf request.target with
  | .put, some [first, service] => if first = root && service ≠ "" then some (.register service) else none
  | .get, some [first, service] => if first = root && service ≠ "" then some (.list service) else none
  | .delete, some [first, service, id] =>
    if first = root && service ≠ "" && id ≠ "" then some (.deregister service id) else none
  | _, _ => none

/-- Answers a request. There is no answer to a registration whose lease would run out after the end of
time. -/
def serve (now : Nanos) (request : Request) : StateM Registry (Option Response) := fun registry =>
  match Asked.of? request with
  | none => (some Http.nowhere, registry)
  | some (.register service) =>
    match request.decode Http.bodyLimit Instance.decode with
    | .error error => (some error.toApi.response, registry)
    | .ok instance_ =>
      match registry.register? now service instance_ with
      | some registry => (some { status := 204 }, registry)
      | none => (none, registry)
  | some (.deregister service id) =>
    let (removed, registry) := registry.deregister service id
    (some (if removed then { status := 204 } else ApiError.notFound.response), registry)
  | some (.list service) =>
    let instances := registry.live now service
    (some { status := 200, body := some (.array (instances.map Instance.toJson)) }, registry)

end CodeJudge.Registry
