import CodeJudge.Proofs.Coordinator.Passage

/-!
# A submission alone

A submission that is alone is one whose steps nothing comes between. What is known of it among others is
known of it then, and in addition in which world its job is judged: in the one that it was handed in in
(`submit_of_posed`).
-/

namespace CodeJudge.Coordinator

open Store (Database Id Posing)

variable {request : Request} {language : Language} {posing : Posing} {result : JobResult}
variable {judged : Except Fault JobResult} {before after : Database} {stage next : Stage}

/-- A run of one submission. -/
def alone (database : Database) (request : Request) (stage : Stage) : Run :=
  { database, active := [⟨request, stage⟩] }

theorem next?_alone (database : Database) (request : Request) (stage : Stage) (fault : Option Fault)
    (judged : Except Fault JobResult) :
    (alone database request stage).next? (.step 0 fault judged) =
      some (alone (stage.step request fault judged database).2 request
        (stage.step request fault judged database).1) := by
  cases stage <;> rfl

/-- What a submission finds that is alone: a sound store in which its user is there and its problem is posed,
and what it takes along. -/
structure Ready (language : Language) (posing : Posing) (result : JobResult) (request : Request)
    (database : Database) (stage : Stage) : Prop where
  sound : Sound (alone database request stage)
  pending : Pending (alone database request stage)
  user : database.tables.userExists request.user = true
  posed : database.tables.posing? request.problem = some posing
  carried : Carried request language posing result stage

/-- A submission that is alone finds the same after a step without a fault. -/
theorem Ready.step (ready : Ready language posing result request before stage) (fits : Judgeable posing)
    (parsed : Language.parse? request.submission.language = some language)
    (judges : stage.job? = some (request.jobFor language posing) → judged = .ok result) :
    Ready language posing result request (stage.step request none judged before).2
      (stage.step request none judged before).1 := by
  have happened := next?_alone before request stage none judged
  have moves := moves_step request none judged before stage
  obtain ⟨sound, extends_⟩ := ready.sound.follow happened
  refine ⟨sound, ready.pending.follow ready.sound happened, extends_.users _ ready.user, ?_, ?_⟩
  · rw [moves.posing?]
    exact ready.posed
  · refine moves.carried ready.carried fits ready.user parsed (fun _ => ready.posed) ?_ judges
    intro cause refused
    exact unfit_of_refused ready.pending ready.sound List.mem_cons_self refused

/-- Whether the job of a submission has been judged. -/
def Stage.isJudged : Stage → Bool
  | .wait _ _ | .findPrior _ _ | .record _ _ _ | .count _ _ _ | .ended _ => true
  | _ => false

/-- Only the dispatch has a job judged. -/
theorem Moves.isJudged (moves : Moves request none judged before stage next after)
    (carried : Carried request language posing result next) (idle : stage.job? = none) :
    next.isJudged = stage.isJudged := by
  have failed {error : SubmitError} : ¬ Carried request language posing result (.ended (.error error)) := by
    rintro ⟨submission, id, same⟩
    cases same
  cases moves with
  | failed | noUser | noLanguage | noProblem => exact absurd carried failed
  | undelivered | delivered => cases idle
  | _ => rfl

variable {W : Type} {judge : Job → StateM W (Except Fault JobResult)} {world last : W}

/-- **A submission that is alone comes to its outcome**, in the world that the judging of its job leads to. -/
theorem Ready.advance {count : Nat} (ready : Ready language posing result request before stage)
    (fits : Judgeable posing) (parsed : Language.parse? request.submission.language = some language)
    (judges : (judge (request.jobFor language posing)).run world = (.ok result, last))
    (enough : stage.left ≤ count) (trace : Trace) :
    ∃ submission id after traced,
      (Coordinator.advance judge (fun _ => none) request count (stage, before, trace)).run
          (if stage.isJudged then last else world) =
        ((.ended (.ok (outcomeOf (judgementOf request submission result) result id)), after, traced), last) := by
  induction count generalizing stage before trace with
  | zero =>
    obtain ⟨answer, rfl⟩ := Stage.ended_of_left (Nat.le_zero.mp enough)
    obtain ⟨submission, id, rfl⟩ := ready.carried
    exact ⟨submission, id, before, trace, rfl⟩
  | succ count ih =>
    have left {judged : Except Fault JobResult} :
        (stage.step request none judged before).1.left ≤ count :=
      ((moves_step request none judged before stage).left_le).trans (Nat.sub_le_of_le_add enough)
    -- the dispatch alone goes to another world
    cases idle : stage.job? with
    | none =>
      let nothing : Except Fault JobResult := .error (.other "nothing to judge")
      have next : Ready language posing result request (stage.step request none nothing before).2
          (stage.step request none nothing before).1 := by
        refine ready.step fits parsed fun asks => ?_
        rw [idle] at asks
        cases asks
      have same := (moves_step request none _ before stage).isJudged next.carried idle
      obtain ⟨submission, id, after, traced, ran⟩ := ih next left (trace.add stage)
      rw [same] at ran
      refine ⟨submission, id, after, traced, ?_⟩
      rw [← ran]
      simp only [Coordinator.advance, idle, run_bind, run_pure, Option.bind_fun_none]
      rfl
    | some job =>
      obtain ⟨submission, rfl⟩ : ∃ submission, stage = .dispatch submission job := by
        cases stage with
        | dispatch submission own =>
          cases idle
          exact ⟨submission, rfl⟩
        | _ => cases idle
      obtain rfl : job = request.jobFor language posing := ready.carried
      obtain ⟨kept, id, after, traced, ran⟩ := ih (ready.step fits parsed fun _ => rfl) left
        (trace.add (.dispatch submission (request.jobFor language posing)))
      refine ⟨kept, id, after, traced, ?_⟩
      rw [← ran]
      have asked : (judge (request.jobFor language posing)).run
          (if (Stage.dispatch submission (request.jobFor language posing)).isJudged then last else world) =
            (.ok result, last) := judges
      simp only [Coordinator.advance, idle, run_bind, Option.bind_fun_none, asked]
      rfl

/-- **A submission that is alone has its outcome**, wherever a run has left the store. -/
theorem submit_of_posed {events : List Event} {run : Run} (ran : Run.after? {} events = some run)
    (posed : (Run.posings {} request.problem events).getLast? = some posing) (fits : Judgeable posing)
    (user : run.database.tables.userExists request.user = true)
    (parsed : Language.parse? request.submission.language = some language)
    (judges : (judge (request.jobFor language posing)).run world = (.ok result, last)) :
    ∃ submission id after trace, (submit judge (fun _ => none) request run.database).run world =
      ((.ok (outcomeOf (judgementOf request submission result) result id), after, trace), last) := by
  have sound : Sound (alone run.database request .findUser) := by
    refine ⟨(sound_of_after? ran).integral, ?_⟩
    intro active there
    obtain rfl := List.mem_singleton.mp there
    trivial
  have pending : Pending (alone run.database request .findUser) := by
    refine ⟨(pending_of_after? ran).isOpen, ?_, ?_, ?_⟩
    · intro active there
      obtain rfl := List.mem_singleton.mp there
      trivial
    · intro active there id waits
      obtain rfl := List.mem_singleton.mp there
      cases waits
    · intro first second one other id there _ waits
      obtain rfl := List.mem_singleton.mp (List.mem_of_getElem? there)
      cases waits
  have ready : Ready language posing result request run.database .findUser :=
    ⟨sound, pending, user, (posing?_of_after? ran _).trans posed, trivial⟩
  obtain ⟨submission, id, after, traced, came⟩ := ready.advance fits parsed judges (Nat.le_refl stages) {}
  have came_ : (Coordinator.advance judge (fun _ => none) request stages
      (.findUser, run.database, {})).run world = _ := came
  refine ⟨submission, id, after, traced, ?_⟩
  rw [submit, run_bind, came_]
  rfl

end CodeJudge.Coordinator
