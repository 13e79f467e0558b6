import CodeJudge.Http.Message
import CodeJudge.Job.Wire
import CodeJudge.Worker.Judge

/-!
# The worker's server

Takes jobs over HTTP. Every job that can be read is answered with its result, also one that is
malformed or meets a fault of the worker.
-/

namespace CodeJudge.Worker

open Http (Request Response)

/-- How many bytes of a job a worker reads: 64 MiB. -/
def bodyLimit : Nat := 64 * 1024 * 1024

/-- Answers a request. -/
def serve {W : Type} (bench : Bench W) (toolchains : Sandbox.Toolchains) (request : Request) :
    StateM W Response := do
  if request.method = .post ∧ Http.partsOf request.target = some ["rpc", "SubmitCode"] then
    match request.decode bodyLimit Job.decode with
    | .error error => return error.toApi.response
    | .ok job =>
      let result ← answer bench toolchains job
      return { status := 200, body := some result.toJson }
  else return Http.nowhere

end CodeJudge.Worker
