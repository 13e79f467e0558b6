import CodeJudge.Dispatch.Remote
import CodeJudge.Proofs.Actions
import CodeJudge.Proofs.Http.Url
import CodeJudge.Proofs.Job.Wire

/-!
# The trace of a dispatch

A dispatch that no other comes between leaves a trace: the requests that it has sent, and what has come of
each. `Goes` follows the calls one by one; what is known of a whole trace is read off it.

**The law** (`dispatch_traced`). A dispatch that knows of instances calls those whose turns follow where the
counter stands, one after another, until a call is answered or the attempts are used up (`Traced`). A call is
answered by a body that is a result, under a status that is no error.

Statuses that are no errors are more than those of success: a dispatch goes by success, as it should, unless
one of its calls is answered under a status that is neither (`Contact.Astray`), and then it never does.

**What it does not establish.** Where an address leads to, nor what a transport does between sending a request
and giving its reply.
-/

namespace CodeJudge.Dispatch

open Http (Received Request Transport Url)

/-! ## Contacts -/

/-- A request that was sent, and what has come of it. -/
structure Contact where
  authority : String
  request : Request
  reply : Except String Received

/-- A transport on which every request is noted, with what has come of it. -/
def observed {W : Type} (transport : Transport W) : Transport (W × List Contact) where
  send authority request := noting (Contact.mk authority request) (transport.send authority request)

/-- Whether a request takes a job to the worker at an address. -/
def Contact.Carries (contact : Contact) (job : Job) (address : String) : Prop :=
  let url := Url.ofText ("http://" ++ address ++ judgePath)
  contact.authority = url.authority ∧ contact.request = .ofJson .post url.target job.toJson

/-- The statuses of success. -/
def Succeeds (status : Nat) : Prop := 200 ≤ status ∧ status < 300

/-- The statuses that are no errors. -/
def IsNoError (status : Nat) : Prop := ¬ (400 ≤ status ∧ status < 600)

/-- **A call that is answered**, where some statuses count as success: its reply has one of them, and the body
is a result. -/
def Contact.Answered (success : Nat → Prop) (contact : Contact) (result : JobResult) : Prop :=
  ∃ received, contact.reply = .ok received ∧ success received.status ∧
    Json.decodeBytes JobResult.decode received.body = .ok result

/-- A call that is answered under a status that is neither of success nor an error. -/
def Contact.Astray (contact : Contact) : Prop :=
  ∃ result, contact.Answered IsNoError result ∧ ¬ contact.Answered Succeeds result

/-- What a client takes from the reply to a job. -/
def taken : Except String Received → Except Fault JobResult
  | .error text => .error (.other text)
  | .ok received =>
    match received.accept with
    | .error text => .error (.other text)
    | .ok body =>
      match Json.decodeBytes JobResult.decode body with
      | .ok result => .ok result
      | .error _ => .error (.other "error decoding response body")

theorem accept_eq_ok_iff {received : Received} {body : Bytes} :
    received.accept = .ok body ↔ IsNoError received.status ∧ body = received.body := by
  unfold Received.accept IsNoError
  simp only [Bool.and_eq_true, decide_eq_true_eq]
  split
  · simp only [reduceCtorEq, false_iff]
    omega
  · split
    · simp only [reduceCtorEq, false_iff]
      omega
    · simp only [Except.ok.injEq, eq_comm (a := received.body), iff_and_self]
      omega

/-- **A result is taken from a reply exactly where the call is answered.** -/
theorem taken_eq_ok_iff {contact : Contact} {result : JobResult} :
    taken contact.reply = .ok result ↔ contact.Answered IsNoError result := by
  unfold Contact.Answered taken
  cases contact.reply with
  | error text => simp
  | ok received =>
    cases accepted : received.accept with
    | error text =>
      have refused : ¬ IsNoError received.status := fun noError => by
        rw [accept_eq_ok_iff.mpr ⟨noError, rfl⟩] at accepted
        cases accepted
      simp [accepted, refused]
    | ok body =>
      obtain ⟨noError, rfl⟩ := accept_eq_ok_iff.mp accepted
      cases decoded : Json.decodeBytes JobResult.decode received.body with
      | error fault => simp [accepted, decoded]
      | ok other => simp [accepted, decoded, noError]

theorem callWorker_run {W : Type} (transport : Transport W) (address : String) (job : Job) (world : W) :
    (callWorker transport address job).run world =
      let url := Url.ofText ("http://" ++ address ++ judgePath)
      let sent := (transport.send url.authority (.ofJson .post url.target job.toJson)).run world
      (taken sent.1, sent.2) := by
  simp only [callWorker, run_bind]
  cases ((transport.send _ _).run world).1 with
  | error text => rfl
  | ok received =>
    unfold taken
    dsimp only
    cases received.accept with
    | error text => rfl
    | ok body =>
      dsimp only
      cases Json.decodeBytes JobResult.decode body <;> rfl

/-- Noting a call changes nothing. -/
theorem callWorker_observed {W : Type} (transport : Transport W) (address : String) (job : Job) (world : W)
    (earlier : List Contact) :
    ∃ contact : Contact, contact.Carries job address ∧
      taken contact.reply = ((callWorker transport address job).run world).1 ∧
      (callWorker (observed transport) address job).run (world, earlier) =
        (((callWorker transport address job).run world).1, ((callWorker transport address job).run world).2,
          earlier ++ [contact]) := by
  rw [callWorker_run, callWorker_run]
  exact ⟨⟨_, _, _⟩, ⟨rfl, rfl⟩, rfl, rfl⟩

/-! ## Calls -/

section

variable (policy : Policy) (instances : List String) (job : Job)

/-- **What calls come to**, so many being left and the last one having failed in the given way: the contacts
that they make, the answer, and where they leave the counter. -/
inductive Goes : (last : Fault) → (left : Nat) → (counter : UInt64) → List Contact →
    Except Fault JobResult × UInt64 → Prop
  | spent {last : Fault} {counter : UInt64} :
      Goes last 0 counter [] (.error (policy.exhausted last), counter)
  | answered {last : Fault} {left : Nat} {counter : UInt64} {contact : Contact} {address : String}
      {result : JobResult} (turn : instances[slot counter instances.length]? = some address)
      (carries : contact.Carries job address) (answers : taken contact.reply = .ok result) :
      Goes last (left + 1) counter [contact] (.ok result, counter + 1)
  | failed {last fault : Fault} {left : Nat} {counter : UInt64} {contact : Contact} {address : String}
      {contacts : List Contact} {outcome : Except Fault JobResult × UInt64}
      (turn : instances[slot counter instances.length]? = some address)
      (carries : contact.Carries job address) (fails : taken contact.reply = .error fault)
      (rest : Goes fault left (counter + 1) contacts outcome) :
      Goes last (left + 1) counter (contact :: contacts) outcome

end

variable {policy : Policy} {instances : List String} {job : Job}

/-- Calls that are made go so, and noting them changes nothing. -/
theorem goes_attempt {W : Type} (transport : Transport W) (nonempty : instances ≠ []) (last : Fault) (left : Nat)
    (counter : UInt64) (world : W) (earlier : List Contact) :
    ∃ contacts,
      (attempt policy (callWorker (observed transport)) job instances last left counter).run (world, earlier) =
        (((attempt policy (callWorker transport) job instances last left counter).run world).1,
          ((attempt policy (callWorker transport) job instances last left counter).run world).2,
          earlier ++ contacts) ∧
      Goes policy instances job last left counter contacts
        ((attempt policy (callWorker transport) job instances last left counter).run world).1 := by
  induction left generalizing last counter world earlier with
  | zero => exact ⟨[], by rw [List.append_nil]; rfl, .spent⟩
  | succ left ih =>
    have place : slot counter instances.length < instances.length :=
      Nat.mod_lt _ (List.length_pos_iff.mpr nonempty)
    have turn : instances[slot counter instances.length]? =
        some (instances.getD (slot counter instances.length) "") := by
      rw [List.getD_eq_getElem?_getD, List.getElem?_eq_getElem place, Option.getD_some]
    simp only [attempt, run_bind]
    generalize instances.getD (slot counter instances.length) "" = address at turn ⊢
    obtain ⟨contact, carries, replied, noted⟩ := callWorker_observed transport address job world earlier
    rw [noted]
    cases came : ((callWorker transport address job).run world).1 with
    | ok result => exact ⟨[contact], rfl, .answered turn carries (replied.trans came)⟩
    | error fault =>
      obtain ⟨contacts, ran, goes⟩ :=
        ih fault (counter + 1) ((callWorker transport address job).run world).2 (earlier ++ [contact])
      refine ⟨contact :: contacts, ?_, .failed turn carries (replied.trans came) goes⟩
      rw [List.append_assoc, List.singleton_append] at ran
      exact ran

/-! ## What is known of a trace -/

namespace Goes

variable {last : Fault} {left : Nat} {counter : UInt64} {contacts : List Contact}
variable {outcome : Except Fault JobResult × UInt64}

theorem turns (goes : Goes policy instances job last left counter contacts outcome) :
    ∀ k contact, contacts[k]? = some contact → ∃ address,
      instances[(counter.toNat + k) % 2 ^ 64 % instances.length]? = some address ∧
        contact.Carries job address := by
  have here (counter : UInt64) : (counter.toNat + 0) % 2 ^ 64 % instances.length =
      slot counter instances.length := by
    rw [Nat.add_zero, Nat.mod_eq_of_lt counter.toNat_lt, slot]
  induction goes with
  | spent => nofun
  | @answered _ _ counter contact address _ turn carries _ =>
    intro k called there
    cases k with
    | zero =>
      cases there
      exact ⟨address, here counter ▸ turn, carries⟩
    | succ k => cases there
  | @failed _ _ _ counter contact address _ _ turn carries _ _ ih =>
    intro k called there
    cases k with
    | zero =>
      cases there
      exact ⟨address, here counter ▸ turn, carries⟩
    | succ k =>
      have next : ((counter + 1).toNat + k) % 2 ^ 64 = (counter.toNat + (k + 1)) % 2 ^ 64 := by
        rw [UInt64.toNat_add, UInt64.toNat_one]
        omega
      rw [← next]
      exact ih k called there

theorem counted (goes : Goes policy instances job last left counter contacts outcome) :
    outcome.2.toNat = (counter.toNat + contacts.length) % 2 ^ 64 := by
  induction goes with
  | @spent _ counter => exact (Nat.mod_eq_of_lt counter.toNat_lt).symm
  | answered => rw [UInt64.toNat_add, UInt64.toNat_one, List.length_singleton]
  | failed _ _ _ _ ih =>
    rw [ih, UInt64.toNat_add, UInt64.toNat_one, List.length_cons]
    omega

/-- All calls before the last one fail. -/
theorem failing (goes : Goes policy instances job last left counter contacts outcome) :
    ∀ contact ∈ contacts.dropLast, ∃ fault, taken contact.reply = .error fault := by
  induction goes with
  | spent => nofun
  | answered => nofun
  | @failed _ fault _ _ contact _ contacts _ _ _ fails rest ih =>
    intro called mem
    cases contacts with
    | nil => cases mem
    | cons next later =>
      rw [List.dropLast_cons_of_ne_nil (List.cons_ne_nil _ _)] at mem
      rcases List.mem_cons.mp mem with rfl | mem
      · exact ⟨fault, fails⟩
      · exact ih called mem

/-- **How calls end**: with one that is answered, or with the last of the attempts. -/
theorem ends (goes : Goes policy instances job last left counter contacts outcome) :
    (∃ earlier contact result, contacts = earlier ++ [contact] ∧ taken contact.reply = .ok result ∧
        outcome.1 = .ok result ∧ contacts.length ≤ left) ∨
      (contacts.length = left ∧ (∀ contact ∈ contacts, ∃ fault, taken contact.reply = .error fault) ∧
        ∃ fault, outcome.1 = .error (policy.exhausted fault) ∧
          (contacts = [] ∧ fault = last ∨
            ∃ contact, contacts.getLast? = some contact ∧ taken contact.reply = .error fault)) := by
  induction goes with
  | spent => exact .inr ⟨rfl, nofun, _, rfl, .inl ⟨rfl, rfl⟩⟩
  | @answered _ left _ contact _ result _ _ answers =>
    exact .inl ⟨[], contact, result, rfl, answers, rfl, Nat.le_add_left 1 left⟩
  | @failed _ fault left _ contact _ contacts _ _ _ fails _ ih =>
    rcases ih with ⟨earlier, other, result, rfl, answers, came, within⟩ | ⟨all, failed, cause, came, whose⟩
    · exact .inl ⟨contact :: earlier, other, result, rfl, answers, came, Nat.succ_le_succ within⟩
    · refine .inr ⟨congrArg (· + 1) all, List.forall_mem_cons.mpr ⟨⟨fault, fails⟩, failed⟩, cause, came, .inr ?_⟩
      rcases whose with ⟨rfl, rfl⟩ | ⟨other, there, fails'⟩
      · exact ⟨contact, rfl, fails⟩
      · refine ⟨other, ?_, fails'⟩
        rw [List.getLast?_cons, there]
        rfl

end Goes

/-! ## The law -/

/-- **What a dispatch comes to** that knows of instances, where some statuses count as success. -/
structure Traced (success : Nat → Prop) (policy : Policy) (instances : List String) (job : Job)
    (counter : UInt64) (contacts : List Contact) (outcome : Except Fault JobResult × UInt64) : Prop where
  /-- The calls go to the instances whose turns they are, one after another. -/
  turns : ∀ k contact, contacts[k]? = some contact → ∃ address,
    instances[(counter.toNat + k) % 2 ^ 64 % instances.length]? = some address ∧ contact.Carries job address
  /-- No call is made after one that is answered. -/
  stops : ∀ contact ∈ contacts.dropLast, ∀ result, ¬ contact.Answered success result
  within : 1 ≤ contacts.length ∧ contacts.length ≤ policy.tries
  ok_iff : ∀ result, outcome.1 = .ok result ↔
    ∃ contact, contacts.getLast? = some contact ∧ contact.Answered success result
  error_iff : (∃ fault, outcome.1 = .error fault) ↔
    contacts.length = policy.tries ∧ ∀ contact ∈ contacts, ∀ result, ¬ contact.Answered success result
  /-- A dispatch that fails tells what the last call has failed with. -/
  tells : ∀ fault, outcome.1 = .error fault → ∃ contact cause, contacts.getLast? = some contact ∧
    taken contact.reply = .error cause ∧ fault = policy.exhausted cause
  counted : outcome.2.toNat = (counter.toNat + contacts.length) % 2 ^ 64
  /-- With attempts for all instances before the counter comes round to its start, one instance is enough that
  answers every call made to it. -/
  suffices_one : instances.length ≤ policy.tries → counter.toNat + instances.length ≤ 2 ^ 64 →
    ∀ place < instances.length,
      (∀ k contact, contacts[k]? = some contact →
        (counter.toNat + k) % 2 ^ 64 % instances.length = place → ∃ result, contact.Answered success result) →
      ∃ result, outcome.1 = .ok result

section

variable {success : Nat → Prop} {counter : UInt64} {contacts : List Contact}
variable {outcome : Except Fault JobResult × UInt64}

/-- Among as many numbers in a row as there are places, every place has its turn. -/
theorem exists_turn {count place : Nat} (there : place < count) (number : Nat) :
    ∃ k < count, (number + k) % count = place := by
  have split := Nat.div_add_mod number count
  have rest := Nat.mod_lt number (Nat.zero_lt_of_lt there)
  by_cases early : number % count ≤ place
  · refine ⟨place - number % count, by omega, ?_⟩
    have whole : number + (place - number % count) = count * (number / count) + place := by omega
    rw [whole, Nat.mul_add_mod, Nat.mod_eq_of_lt there]
  · refine ⟨count + place - number % count, by omega, ?_⟩
    have whole : number + (count + place - number % count) = count * (number / count + 1) + place := by
      rw [Nat.mul_add, Nat.mul_one]
      omega
    rw [whole, Nat.mul_add_mod, Nat.mod_eq_of_lt there]

/-- Where all instances have their turns, one that answers every call made to it is enough. -/
theorem Goes.suffices_one
    (goes : Goes policy instances job noCall policy.tries counter contacts outcome)
    (enough : instances.length ≤ policy.tries) (early : counter.toNat + instances.length ≤ 2 ^ 64) {place : Nat}
    (there : place < instances.length)
    (works : ∀ k contact, contacts[k]? = some contact →
      (counter.toNat + k) % 2 ^ 64 % instances.length = place → ∃ result, taken contact.reply = .ok result) :
    ∃ result, outcome.1 = .ok result := by
  rcases goes.ends with ⟨-, -, result, -, -, came, -⟩ | ⟨all, failed, -⟩
  · exact ⟨result, came⟩
  · -- the turn of the place comes within one round
    obtain ⟨k, few, turn⟩ := exists_turn there counter.toNat
    have made : k < contacts.length := by omega
    obtain ⟨result, answers⟩ := works k contacts[k] (List.getElem?_eq_getElem made) (by
      have small : counter.toNat + k < 2 ^ 64 := by omega
      rw [Nat.mod_eq_of_lt small, turn])
    obtain ⟨fault, fails⟩ := failed contacts[k] (List.getElem_mem made)
    rw [answers] at fails
    cases fails

/-- **A dispatch is traced** by the statuses of success where they tell of its calls what is taken from them. -/
theorem Goes.traced (goes : Goes policy instances job noCall policy.tries counter contacts outcome)
    (same : ∀ contact ∈ contacts, ∀ result,
      contact.Answered success result ↔ taken contact.reply = .ok result) :
    Traced success policy instances job counter contacts outcome := by
  have unanswered {contact : Contact} (mem : contact ∈ contacts)
      (fails : ∃ fault, taken contact.reply = .error fault) (result : JobResult) :
      ¬ contact.Answered success result := by
    intro answered
    obtain ⟨fault, fails⟩ := fails
    rw [same contact mem, fails] at answered
    cases answered
  have some_ : 1 ≤ policy.tries := Nat.le_max_right policy.attempts 1
  have last_mem {contact : Contact} (last : contacts.getLast? = some contact) : contact ∈ contacts :=
    List.mem_of_getLast? last
  refine ⟨goes.turns, ?_, ?_, ?_, ?_, ?_, goes.counted, ?_⟩
  · intro contact mem
    exact unanswered (List.dropLast_subset contacts mem) (goes.failing contact mem)
  · rcases goes.ends with ⟨earlier, contact, -, rfl, -, -, within⟩ | ⟨all, -⟩
    · rw [List.length_append, List.length_singleton] at within ⊢
      exact ⟨Nat.le_add_left 1 _, within⟩
    · omega
  · intro result
    rcases goes.ends with ⟨earlier, contact, other, rfl, answers, came, -⟩ | ⟨-, failed, fault, came, -⟩
    · have last : (earlier ++ [contact]).getLast? = some contact := List.getLast?_concat
      rw [came, Except.ok.injEq]
      constructor
      · rintro rfl
        exact ⟨contact, last, (same contact (last_mem last) _).mpr answers⟩
      · rintro ⟨_, there, answered⟩
        cases last.symm.trans there
        rw [same contact (last_mem last), answers] at answered
        exact Except.ok.inj answered
    · rw [came]
      refine iff_of_false nofun ?_
      rintro ⟨contact, last, answered⟩
      exact unanswered (last_mem last) (failed contact (last_mem last)) result answered
  · rcases goes.ends with ⟨earlier, contact, result, rfl, answers, came, -⟩ | ⟨all, failed, fault, came, -⟩
    · rw [came]
      refine iff_of_false nofun ?_
      rintro ⟨-, missed⟩
      have mem : contact ∈ earlier ++ [contact] := List.mem_append_right _ (List.mem_singleton_self _)
      exact missed contact mem result ((same contact mem result).mpr answers)
    · rw [came]
      exact iff_of_true ⟨_, rfl⟩ ⟨all, fun contact mem => unanswered mem (failed contact mem)⟩
  · intro fault failed
    rcases goes.ends with ⟨-, -, result, -, -, came, -⟩ | ⟨all, -, cause, came, whose⟩
    · rw [came] at failed
      cases failed
    · rw [came] at failed
      cases failed
      rcases whose with ⟨rfl, -⟩ | ⟨contact, last, fails⟩
      · rw [← all] at some_
        exact absurd some_ (by decide)
      · exact ⟨contact, cause, last, fails, rfl⟩
  · intro enough early place there works
    refine goes.suffices_one enough early there fun k contact called turn => ?_
    obtain ⟨result, answered⟩ := works k contact called turn
    exact ⟨result, (same contact (List.mem_of_getElem? called) result).mp answered⟩

theorem Contact.Answered.noError {contact : Contact} {result : JobResult}
    (answered : contact.Answered Succeeds result) : contact.Answered IsNoError result := by
  obtain ⟨received, replied, succeeds, decoded⟩ := answered
  refine ⟨received, replied, ?_, decoded⟩
  unfold Succeeds at succeeds
  unfold IsNoError
  omega

/-- **A dispatch goes by success** unless one of its calls is answered astray. -/
theorem Goes.traced_succeeds_iff
    (goes : Goes policy instances job noCall policy.tries counter contacts outcome) :
    Traced Succeeds policy instances job counter contacts outcome ↔ ∀ contact ∈ contacts, ¬ contact.Astray := by
  constructor
  · rintro traced contact mem ⟨result, answered, missed⟩
    have answers := taken_eq_ok_iff.mpr answered
    rcases goes.ends with ⟨earlier, last, other, rfl, answers', came, -⟩ | ⟨-, failed, -⟩
    · rcases List.mem_append.mp mem with early | late
      · obtain ⟨fault, fails⟩ := goes.failing contact (by rwa [List.dropLast_concat])
        rw [answers] at fails
        cases fails
      · obtain rfl := List.mem_singleton.mp late
        rw [answers] at answers'
        cases answers'
        obtain ⟨_, there, succeeded⟩ := (traced.ok_iff result).mp came
        rw [List.getLast?_concat] at there
        cases there
        exact missed succeeded
    · obtain ⟨fault, fails⟩ := failed contact mem
      rw [answers] at fails
      cases fails
  · intro straight
    refine goes.traced fun contact mem result => ⟨fun answered => ?_, fun answers => ?_⟩
    · exact taken_eq_ok_iff.mpr answered.noError
    · by_contra missed
      exact straight contact mem ⟨result, taken_eq_ok_iff.mp answers, missed⟩

end

/-- **The trace of a dispatch.** Whatever is found when the instances are looked up, whatever comes of the
requests, and wherever the counter stands: where the look-up fails or finds nobody, the dispatch fails, sends
nothing and leaves the counter as it is. Otherwise it calls the instances whose turns follow, until a call is
answered under a status that is no error, or the attempts are used up. It goes by the statuses of success
exactly if none of its calls is answered under another status that is no error. -/
theorem dispatch_traced {W : Type} (transport : Transport W) (policy : Policy)
    (resolve : String → StateM W (Except Fault (List String))) (job : Job) (counter : UInt64) (world : W) :
    ∃ contacts,
      (dispatch policy (fun service => unnoted (resolve service)) (callWorker (observed transport)) job
          counter).run (world, []) =
        (((dispatch policy resolve (callWorker transport) job counter).run world).1,
          ((dispatch policy resolve (callWorker transport) job counter).run world).2, contacts) ∧
      let outcome := ((dispatch policy resolve (callWorker transport) job counter).run world).1
      match ((resolve policy.service).run world).1 with
      | .error fault => contacts = [] ∧ outcome = (.error fault, counter)
      | .ok [] => contacts = [] ∧ outcome = (.error policy.nobody, counter)
      | .ok instances =>
        Traced IsNoError policy instances job counter contacts outcome ∧
          (Traced Succeeds policy instances job counter contacts outcome ↔
            ∀ contact ∈ contacts, ¬ contact.Astray) := by
  simp only [dispatch, run_bind, unnoted_run]
  cases ((resolve policy.service).run world).1 with
  | error fault => exact ⟨[], rfl, rfl, rfl⟩
  | ok instances =>
    cases instances with
    | nil => exact ⟨[], rfl, rfl, rfl⟩
    | cons first rest =>
      obtain ⟨contacts, noted, goes⟩ := goes_attempt transport (List.cons_ne_nil first rest) noCall policy.tries
        counter ((resolve policy.service).run world).2 []
      exact ⟨contacts, noted, goes.traced fun _ _ _ => taken_eq_ok_iff.symm, goes.traced_succeeds_iff⟩

/-- One attempt for each job. -/
def once : Policy := ⟨"judge-worker", 1⟩

/-- A job, and what it is answered with. -/
def sample : Job := ⟨1, .go, "x", ["1"], ["1"], 1000, 65536, 1⟩
def sampleResult : JobResult := ⟨1, .accepted, 1, 1, 3, 4, none⟩

/-- A reply that offers several choices, under the status for that, with a body that is a result. -/
def choices : Received := ⟨300, Utf8.encode sampleResult.toJson.render⟩

/-- A transport on which every request is replied to so. -/
def offering : Transport Unit := ⟨fun _ _ => return .ok choices⟩

/-- The call that is made there. -/
def offered : Contact := ⟨"127.0.0.1:1", .ofJson .post judgePath sample.toJson, .ok choices⟩

theorem taken_offered : taken offered.reply = .ok sampleResult := by
  have accepted : choices.accept = .ok choices.body := rfl
  have decoded : Json.decodeBytes JobResult.decode choices.body = .ok sampleResult :=
    sampleResult.decodeBytes_render
  simp only [offered, taken, accepted, decoded]

/-- **Judged without success.** The only call of a dispatch is answered under no status of success, and the
dispatch takes its body for the result. -/
theorem judged_without_success :
    (dispatch once (fun _ => return .ok ["127.0.0.1:1"]) (callWorker (observed offering)) sample 0).run
        ((), []) = ((.ok sampleResult, 1), (), [offered]) ∧
    once.tries = 1 ∧ (∀ contact ∈ [offered], ∀ result, ¬ contact.Answered Succeeds result) ∧
    ¬ Traced Succeeds once ["127.0.0.1:1"] sample 0 [offered] (.ok sampleResult, 1) := by
  have missed (contact : Contact) (mem : contact ∈ [offered]) (result : JobResult) :
      ¬ contact.Answered Succeeds result := by
    obtain rfl := List.mem_singleton.mp mem
    rintro ⟨_, ⟨⟩, succeeds, -⟩
    exact absurd succeeds.2 (by decide)
  have url : Url.ofText ("http://" ++ "127.0.0.1:1" ++ judgePath) = ⟨"127.0.0.1:1", judgePath⟩ :=
    Url.ofText_service (by decide) (by decide)
  have called : (callWorker (observed offering) "127.0.0.1:1" sample).run ((), []) =
      (.ok sampleResult, (), [offered]) := by
    rw [callWorker_run, url]
    exact congrArg (·, (), [offered]) taken_offered
  refine ⟨?_, rfl, missed, fun traced => ?_⟩
  · have tries : once.tries = 0 + 1 := rfl
    have first : ["127.0.0.1:1"].getD (slot 0 1) "" = "127.0.0.1:1" := rfl
    simp only [dispatch, run_bind, run_pure, tries, attempt, List.length_singleton, first, called]
    rfl
  · obtain ⟨contact, last, answered⟩ := (traced.ok_iff sampleResult).mp rfl
    exact missed contact (List.mem_of_getLast? last) sampleResult answered

end CodeJudge.Dispatch
