import CodeJudge.Coordinator.Submit
import CodeJudge.Http.Message

/-!
# The coordinator's server

Takes submissions over HTTP. The answer to a submission that could not be judged tells the submitter
what was wrong with it; of a failure of the pipeline it tells only whether the database is to blame.
-/

namespace CodeJudge.Coordinator

open Http (Response ApiError)
open Store (Database)

/-- The error that a submitter sees. -/
def SubmitError.toApi (error : SubmitError) : ApiError :=
  match error with
  | .userNotFound _ | .problemNotFound _ => .notFound
  | .unsupportedLanguage _ => .invalidArgument error.message
  | .system fault => if fault.database?.isSome then .external else .internal

/-- The answer to a submission. -/
def responseOf : Except SubmitError Outcome → Response
  | .ok outcome => { status := 200, body := some outcome.toJson }
  | .error error => error.toApi.response

/-- Answers a request that comes at a time, and tells what the submission in it has done. -/
def serve {m : Type → Type} [Monad m] (judge : Job → m (Except Fault JobResult)) (faults : Faults)
    (time : String) (database : Database) (request : Http.Request) : m (Response × Database × Trace) := do
  if request.method = .post ∧ Http.partsOf request.target = some ["submissions"] then
    match request.decode Http.bodyLimit Submission.decode with
    | .error error => return (error.toApi.response, database, {})
    | .ok submission =>
      let (answer, database, trace) ← submit judge faults { submission, time } database
      return (responseOf answer, database, trace)
  else return (Http.nowhere, database, {})

end CodeJudge.Coordinator
