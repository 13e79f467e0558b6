import CodeJudge.Dispatch.Rotation
import CodeJudge.Http.Network
import CodeJudge.Http.Url
import CodeJudge.Job.Wire

/-!
# Calling a worker

One call: the job goes to the worker's address, and the body of a good answer is the result.
-/

namespace CodeJudge.Dispatch

open Http (Request Transport Url)

/-- Where a worker takes jobs. -/
def judgePath : String := "/rpc/SubmitCode"

/-- Sends a job to the worker at an address. -/
def callWorker {W : Type} (transport : Transport W) (address : String) (job : Job) :
    StateM W (Except Fault JobResult) := do
  let url := Url.ofText ("http://" ++ address ++ judgePath)
  match ← transport.send url.authority (Request.ofJson .post url.target job.toJson) with
  | .error text => return .error (.other text)
  | .ok received =>
    match received.accept with
    | .error text => return .error (.other text)
    | .ok body =>
      match Json.decodeBytes JobResult.decode body with
      | .ok result => return .ok result
      | .error _ => return .error (.other "error decoding response body")

end CodeJudge.Dispatch
