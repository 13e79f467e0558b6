import CodeJudge.Proofs.Resolver.Reference

/-!
# Races that come to their end

A `Race` is a run of the machine that has come to an answer, in whatever order its steps were taken.
This module says that a race under a clock is one of them: the timer is among its events, and the
resolver can decide at the latest when it rings (`race_ends`). So the answer under a clock is that of a
race (`exists_race`), and what is said of every race is said of it.
-/

namespace CodeJudge.Resolver

/-- A race between so many cases that has come to its end. -/
structure Race (cases : Nat) where
  steps : List Step
  last : State
  answer : Resolution
  ran : State.run? cases {} steps = some last
  ended : last.resolution? cases = some answer

/-- The answer of a race is safe where its tally was read. -/
theorem Race.safe {cases : Nat} (race : Race cases) (few : cases < 2 ^ 32) :
    ∃ before after, race.steps = before ++ .read :: after ∧ Step.read ∉ before ∧
      Safe cases before race.answer :=
  safe_of_resolution? few race.ran race.ended

/-- A resolver that is ready decides, reads the tally and joins the cases. -/
theorem run?_poll {cases : Nat} {state : State} {choice : Step} (undecided : state.decision = none)
    (unread : state.snapshot = none) (racing : state.joined = false)
    (ready : state.poll = some choice) :
    ∃ last answer, state.run? cases [choice, .read, .join] = some last ∧
      last.resolution? cases = some answer := by
  unfold State.poll at ready
  split at ready
  · rename_i sent
    cases channel : state.channel with
    | nil => simp only [channel, List.isEmpty_nil, Bool.not_true, Bool.false_eq_true] at sent
    | cons failure rest =>
      cases ready
      have receives : Moves cases state .receive _ := .receive undecided channel
      obtain ⟨last, closed, answered⟩ := run?_close receives rfl unread racing
      exact ⟨last, _, closed, answered⟩
  · split at ready
    · rename_i stored
      cases ready
      have takes : Moves cases state .take _ := .take undecided stored
      obtain ⟨last, closed, answered⟩ := run?_close takes rfl unread racing
      exact ⟨last, _, closed, answered⟩
    · split at ready
      · rename_i rung
        cases ready
        have expires : Moves cases state .expire _ := .expire undecided rung
        obtain ⟨last, closed, answered⟩ := run?_close expires rfl unread racing
        exact ⟨last, _, closed, answered⟩
      · cases ready

/-- A resolver that is not ready has nothing before it. -/
theorem waiting_of_poll {state : State} (undecided : state.decision = none)
    (unread : state.snapshot = none) (racing : state.joined = false) (idle : state.poll = none) :
    Waiting state := by
  unfold State.poll at idle
  split at idle
  · cases idle
  · rename_i quiet
    split at idle
    · cases idle
    · rename_i open_
      split at idle
      · cases idle
      · rename_i silent
        exact {
          channel := by simpa only [Bool.not_eq_true', Bool.not_eq_false,
            List.isEmpty_iff] using quiet
          permit := eq_false_of_ne_true open_
          timer := eq_false_of_ne_true silent
          decision := undecided
          snapshot := unread
          joined := racing }

/-- An event that a waiting race can meet is met, and takes no decision. -/
theorem Waiting.meets {cases : Nat} {state : State} {time : Nanos} {event : Step}
    {rest : List (Nanos × Step)} (waiting : Waiting state)
    (pending : Pending cases state ((time, event) :: rest)) :
    ∃ next, Moves cases state event next ∧ next.decision = none ∧ next.snapshot = none ∧
      next.joined = false ∧ (event ≠ .ring → Pending cases next rest) := by
  rcases pending.kinds _ List.mem_cons_self with rfl | ⟨index, how, rfl⟩
  · exact ⟨_, .ring waiting.timer, waiting.decision, waiting.snapshot, waiting.joined,
      fun other => absurd rfl other⟩
  · have open_ := pending.known index List.mem_cons_self
    cases passes : how.passes with
    | true =>
      obtain ⟨report, rfl, passed⟩ := Finish.exists_of_passes passes
      exact ⟨_, .pass open_.1 open_.2 waiting.joined passed, waiting.decision, waiting.snapshot,
        waiting.joined, fun _ => pending.tail rfl⟩
    | false =>
      have fails : Moves cases state (.finish index how) _ :=
        .fail open_.1 open_.2 waiting.joined passes
      rw [waiting.fail (Nat.zero_lt_of_lt open_.1)] at fails
      exact ⟨_, fails, waiting.decision, waiting.snapshot, waiting.joined,
        fun _ => pending.tail rfl⟩

/-- **A race under a clock ends**, if only because the timer rings. -/
theorem race_ends {cases : Nat} {events : List (Nanos × Step)} {state : State}
    (waiting : Waiting state) (pending : Pending cases state events)
    (rings : ∃ time, (time, Step.ring) ∈ events) :
    ∃ time last steps answer, race cases state events = some (time, last) ∧
      state.run? cases steps = some last ∧ last.resolution? cases = some answer := by
  induction events generalizing state with
  | nil =>
    obtain ⟨time, mem⟩ := rings
    cases mem
  | cons event rest ih =>
    obtain ⟨time, event⟩ := event
    obtain ⟨next, moves, undecided, unread, racing, still⟩ := waiting.meets pending
    have along (steps : List Step) : state.run? cases (event :: steps) = next.run? cases steps := by
      simp only [State.run?, List.foldlM_cons, Option.bind_eq_bind, step?_of_moves moves,
        Option.bind_some]
    cases ready : next.poll with
    | some choice =>
      obtain ⟨last, answer, closed, answered⟩ := run?_poll undecided unread racing ready
      exact ⟨time, last, event :: [choice, .read, .join], answer,
        race_cons_decides moves ready closed, (along _).trans closed, answered⟩
    | none =>
      have waits := waiting_of_poll undecided unread racing ready
      have other : event ≠ .ring := by
        rintro rfl
        cases moves
        cases waits.timer
      obtain ⟨ringing, mem⟩ := rings
      have later : (ringing, Step.ring) ∈ rest := by
        rcases List.mem_cons.mp mem with eq | mem
        · cases eq
          exact absurd rfl other
        · exact mem
      obtain ⟨at_, last, steps, answer, raced, ran, answered⟩ :=
        ih waits (still other) ⟨ringing, later⟩
      exact ⟨at_, last, event :: steps, answer, (race_cons_waits moves ready).trans raced,
        (along _).trans ran, answered⟩

/-- **The answer under a clock is that of a race**, for a job whose cases are counted as some. -/
theorem exists_race (script : Script) (budget : Nanos) :
    ∃ race : Race script.length,
      counted script.length ≠ 0 → race.answer = (timed script budget).2 := by
  obtain ⟨time, last, steps, answer, raced, ran, answered⟩ :=
    race_ends .start (pending_events script budget) ⟨budget, ring_mem_events script budget⟩
  refine ⟨⟨steps, last, answer, ran, answered⟩, fun some_ => ?_⟩
  simp only [timed, some_, ↓reduceIte, raced, answered, Option.getD_some]

end CodeJudge.Resolver
