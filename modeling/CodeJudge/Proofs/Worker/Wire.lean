import CodeJudge.Proofs.Dispatch.Trace
import CodeJudge.Proofs.Http.Body
import CodeJudge.Worker.Server

/-!
# A worker over the wire

A job is written, sent to the address of a worker, read, judged, and its result is written and read once
more. Nothing of it shows: calling a worker that is reached gives what the worker answers to the job itself
(`callWorker_of_reaches`), and a dispatch ends with the first call that is answered (`dispatch_of_calls`). Only
the length of the job counts: one that is longer than what workers read is a call that fails
(`callWorker_of_long`).
So a job whose shape is wrong is answered with what is wrong by any worker that its dispatch comes to
(`dispatch_of_refused`).

**What it does not establish.** Anything of a network that loses or changes what is sent.
-/

namespace CodeJudge.Worker

open Dispatch (Policy callWorker dispatch judgePath slot taken)
open Http (Request Transport Url)
open Sandbox (Toolchains)

variable {W : Type}

/-- Whether a worker is reached at an address: it gets what is sent there, and its answer comes back. -/
structure Reaches (transport : Transport W) (bench : Bench W) (toolchains : Toolchains) (address : String) :
    Prop where
  plain : Url.isPlain address = true
  send : transport.send address =
    (Transport.ofServer fun request => some <$> serve bench toolchains request).send address

variable {transport : Transport W} {bench : Bench W} {toolchains : Toolchains} {address : String}
variable {job : Job} {world : W}

/-- What a worker that is reached answers is what is taken from the reply. -/
theorem callWorker_of_serve (reaches : Reaches transport bench toolchains address) {response : Http.Response}
    {last : W} (served : (serve bench toolchains (Request.ofJson .post judgePath job.toJson)).run world =
      (response, last)) :
    (callWorker transport address job).run world = (taken (.ok response.received), last) := by
  have plainPath : Url.isPlainPath judgePath = true := by decide
  have url := Url.ofText_service reaches.plain plainPath
  have sent : (transport.send address (Request.ofJson .post judgePath job.toJson)).run world =
      (.ok response.received, last) := by
    rw [reaches.send]
    simp only [Transport.ofServer, run_bind, run_map, served, run_pure]
  simp only [Dispatch.callWorker_run, url, sent]

/-- A worker is asked to judge by what jobs are sent with. -/
theorem asked_ofJson (job : Job) : (Request.ofJson .post judgePath job.toJson).method = .post ∧
    Http.partsOf (Request.ofJson .post judgePath job.toJson).target = some ["rpc", "SubmitCode"] :=
  ⟨rfl, show Http.partsOf judgePath = _ by decide⟩

/-- **What a worker answers over the wire is what it answers**, if the job is not too long to be read. -/
theorem callWorker_of_reaches (reaches : Reaches transport bench toolchains address)
    (fits : Http.Fits bodyLimit job.toJson) (world : W) :
    (callWorker transport address job).run world =
      (.ok ((answer bench toolchains job).run world).1, ((answer bench toolchains job).run world).2) := by
  have decoded : (Request.ofJson .post judgePath job.toJson).decode bodyLimit Job.decode = .ok job :=
    Request.decode_eq_ok_iff.mpr ⟨Request.isJson_ofJson, fits, job.decodeBytes_render⟩
  have served : (serve bench toolchains (Request.ofJson .post judgePath job.toJson)).run world =
      ({ status := 200, body := some ((answer bench toolchains job).run world).1.toJson },
        ((answer bench toolchains job).run world).2) := by
    simp only [serve, asked_ofJson, and_self, ↓reduceIte, decoded, run_bind, run_pure]
  have accepted (body : Bytes) : Http.Received.accept { status := 200, body } = .ok body := rfl
  rw [callWorker_of_serve reaches served]
  simp only [taken, Http.Response.received, accepted, JobResult.decodeBytes_render]

/-- **A job that is too long to be read is judged by no worker**: the call fails, and nothing is done. -/
theorem callWorker_of_long (reaches : Reaches transport bench toolchains address)
    (long : ¬ Http.Fits bodyLimit job.toJson) (world : W) :
    (callWorker transport address job).run world = (.error (.other "HTTP status client error"), world) := by
  have served : (serve bench toolchains (Request.ofJson .post judgePath job.toJson)).run world =
      ((Http.BodyError.tooLong (some (Utf8.encode job.toJson.render).length) bodyLimit).toApi.response,
        world) := by
    simp only [serve, asked_ofJson, and_self, ↓reduceIte, Request.decode_ofJson_of_long long, run_pure]
  exact callWorker_of_serve reaches served

/-! ## The call that is answered -/

section

variable {call : String → Job → StateM W (Except CodeJudge.Fault JobResult)} {job : Job}
variable {instances : List String} {address : String}

/-- **When an instance is called**: the calls before fail, so many being allowed. The number of the call is
given, and the world in which it is made. -/
inductive Calls (call : String → Job → StateM W (Except CodeJudge.Fault JobResult)) (job : Job)
    (instances : List String) (address : String) : (left : Nat) → UInt64 → W → UInt64 → W → Prop
  | now {left : Nat} {counter : UInt64} {world : W}
      (turn : instances[slot counter instances.length]? = some address) :
      Calls call job instances address (left + 1) counter world counter world
  | later {left : Nat} {counter number : UInt64} {world between here : W} {other : String}
      {fault : CodeJudge.Fault} (turn : instances[slot counter instances.length]? = some other)
      (fails : (call other job).run world = (.error fault, between))
      (rest : Calls call job instances address left (counter + 1) between number here) :
      Calls call job instances address (left + 1) counter world number here

/-- Where an instance is called, there are instances. -/
theorem Calls.ne_nil {left : Nat} {counter number : UInt64} {world here : W}
    (calls : Calls call job instances address left counter world number here) : instances ≠ [] := by
  rintro rfl
  cases calls with
  | now turn => cases turn
  | later turn => cases turn

/-- Where a call is answered, no other is made after it. -/
theorem attempt_of_calls {policy : Policy} {left : Nat} {counter number : UInt64} {world here last : W}
    {result : JobResult} (calls : Calls call job instances address left counter world number here)
    (answered : (call address job).run here = (.ok result, last)) (fault : CodeJudge.Fault) :
    (Dispatch.attempt policy call job instances fault left counter).run world =
      ((.ok result, number + 1), last) := by
  have whose {counter : UInt64} {address : String}
      (turn : instances[slot counter instances.length]? = some address) :
      instances.getD (slot counter instances.length) "" = address := by
    rw [List.getD_eq_getElem?_getD, turn, Option.getD_some]
  induction calls generalizing fault with
  | now turn => simp only [Dispatch.attempt, whose turn, run_bind, answered, run_pure]
  | later turn fails _ ih => simp only [Dispatch.attempt, whose turn, run_bind, fails, ih answered]

/-- A dispatch ends with the call that is answered. -/
theorem dispatch_of_calls {policy : Policy}
    {resolve : String → StateM W (Except CodeJudge.Fault (List String))} {counter number : UInt64}
    {world found here last : W} {result : JobResult}
    (resolved : (resolve policy.service).run world = (.ok instances, found))
    (calls : Calls call job instances address policy.tries counter found number here)
    (answered : (call address job).run here = (.ok result, last)) :
    (dispatch policy resolve call job counter).run world = ((.ok result, number + 1), last) := by
  obtain ⟨first, rest, rfl⟩ := List.exists_cons_of_ne_nil calls.ne_nil
  simp only [dispatch, run_bind, resolved, attempt_of_calls calls answered]

/-- **A dispatch whose first call is answered** ends with that answer. -/
theorem dispatch_of_first {policy : Policy}
    {resolve : String → StateM W (Except CodeJudge.Fault (List String))} {counter : UInt64}
    {world found last : W} {result : JobResult}
    (resolved : (resolve policy.service).run world = (.ok instances, found))
    (here : instances[slot counter instances.length]? = some address)
    (answered : (call address job).run found = (.ok result, last)) :
    (dispatch policy resolve call job counter).run world = ((.ok result, counter + 1), last) := by
  obtain ⟨left, tries⟩ : ∃ left, policy.tries = left + 1 :=
    Nat.exists_eq_add_of_le' (Nat.le_max_right policy.attempts 1)
  exact dispatch_of_calls resolved (tries ▸ .now here) answered

end

/-! ## A worker that is come to -/

/-- **Whether a dispatch comes to a worker**: within the attempts it calls an instance at which a worker is
reached, and the job is not too long for workers to read. -/
inductive Served (policy : Policy) (resolve : String → StateM W (Except CodeJudge.Fault (List String)))
    (transport : Transport W) (job : Job) (counter : UInt64) (world : W) : Prop
  | reached {instances : List String} {address : String} {found here : W} {number : UInt64}
      {bench : Bench W} {toolchains : Toolchains}
      (resolved : (resolve policy.service).run world = (.ok instances, found))
      (calls : Calls (callWorker transport) job instances address policy.tries counter found number here)
      (reaches : Reaches transport bench toolchains address)
      (fits : Http.Fits bodyLimit job.toJson)

/-- A job whose shape is wrong is answered with what is wrong, and nothing is done for it. -/
theorem answer_of_refused (bench : Bench W) (toolchains : Toolchains) {fault : Job.Fault}
    (refused : job.validate = .error fault) (world : W) :
    (answer bench toolchains job).run world = (job.systemError fault.message, world) := by
  simp only [answer, refused, run_pure]

/-- **A job whose shape is wrong is answered over the wire with what is wrong**, by whichever worker the
dispatch comes to. -/
theorem dispatch_of_refused {policy : Policy}
    {resolve : String → StateM W (Except CodeJudge.Fault (List String))} {counter : UInt64}
    {fault : Job.Fault} (served : Served policy resolve transport job counter world)
    (refused : job.validate = .error fault) :
    ((dispatch policy resolve (callWorker transport) job counter).run world).1.1 =
      .ok (job.systemError fault.message) := by
  cases served with
  | @reached _ _ _ here _ _ _ resolved calls reaches fits =>
    have answered := callWorker_of_reaches reaches fits here
    rw [answer_of_refused _ _ refused] at answered
    rw [dispatch_of_calls resolved calls answered]

end CodeJudge.Worker
