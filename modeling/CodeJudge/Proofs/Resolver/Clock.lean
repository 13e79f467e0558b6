import CodeJudge.Proofs.Resolver.Race
import CodeJudge.Resolver.Timed

/-!
# The race under a clock

Under a clock the events of a race come in the order of their times, and the resolver looks after
each of them. This module says where such a race stops: at the first event that lets the resolver
decide (`race_stops`), after passes that let it wait.

Nothing is asked of the times. The list of events is read as it stands; that it is sorted, and what
that means for the cases, is the matter of `Proofs.Resolver.Reference`.
-/

namespace CodeJudge.Resolver

open Sandbox (Report)

/-! ## Events -/

/-- The case that a step finishes. -/
def Step.index? : Step → Option Nat
  | .finish index _ => some index
  | _ => none

/-- The cases that finish among events. -/
def indices (events : List (Nanos × Step)) : List Nat := events.filterMap (·.2.index?)

/-- The resolver waits, and nothing is ready for it. -/
structure Waiting (state : State) : Prop where
  channel : state.channel = []
  permit : state.permit = false
  timer : state.timer = false
  decision : state.decision = none
  snapshot : state.snapshot = none
  joined : state.joined = false

/-- **Events that a race can still meet**: the timer, and each case of the job at most once that has
not finished. -/
structure Pending (cases : Nat) (state : State) (events : List (Nanos × Step)) : Prop where
  kinds : ∀ event ∈ events, event.2 = .ring ∨ ∃ index how, event.2 = .finish index how
  distinct : (indices events).Nodup
  known : ∀ index ∈ indices events, index < cases ∧ index ∉ state.finished

/-- **The events that let the resolver decide** when so many cases have passed before, and what it
decides. -/
inductive Decides (cases passed : Nat) : Step → Decision → Prop
  | failed {index : Nat} {how : Finish} (fails : how.passes = false) :
      Decides cases passed (.finish index how) (.failed (how.failure index))
  | last {index : Nat} {report : Report} (passes : report.outcome = .pass)
      (full : passed + 1 = cases) :
      Decides cases passed (.finish index (.ok report)) .allPassed
  | ring : Decides cases passed .ring .budgetElapsed

/-- What is pending after an event does not finish the case that the event finishes. -/
theorem Pending.tail {cases : Nat} {state : State} {time : Nanos} {index : Nat} {how : Finish}
    {rest : List (Nanos × Step)}
    (pending : Pending cases state ((time, .finish index how) :: rest)) {next : State}
    (finished : next.finished = index :: state.finished) : Pending cases next rest where
  kinds := fun event mem => pending.kinds event (List.mem_cons_of_mem _ mem)
  distinct := (List.nodup_cons.mp pending.distinct).2
  known := by
    intro other mem
    have known := pending.known other (List.mem_cons_of_mem _ mem)
    rw [finished]
    refine ⟨known.1, fun here => ?_⟩
    rcases List.mem_cons.mp here with rfl | here
    · exact (List.nodup_cons.mp pending.distinct).1 mem
    · exact known.2 here

/-! ## One event -/

/-- A resolver that has decided reads the tally and joins the cases. -/
theorem run?_close {cases : Nat} {state decided : State} {choice : Step} {decision : Decision}
    (moves : Moves cases state choice decided) (chosen : decided.decision = some decision)
    (unread : decided.snapshot = none) (racing : decided.joined = false) :
    ∃ last, state.run? cases [choice, .read, .join] = some last ∧
      last.resolution? cases = some (resolution (counted cases) decision decided.tally) := by
  have read : Moves cases decided .read { decided with snapshot := some decided.tally } :=
    .read chosen unread
  have join : Moves cases { decided with snapshot := some decided.tally } .join
      { decided with snapshot := some decided.tally, joined := true } := .join rfl racing
  refine ⟨{ decided with snapshot := some decided.tally, joined := true }, ?_, ?_⟩
  · simp only [State.run?, List.foldlM_cons, List.foldlM_nil, Option.bind_eq_bind,
      step?_of_moves moves, Option.bind_some, step?_of_moves read, step?_of_moves join]
    rfl
  · simp only [State.resolution?, chosen]

/-- The race ends at an event after which the resolver is ready. -/
theorem race_cons_decides {cases : Nat} {state next last : State} {time : Nanos}
    {event choice : Step} {rest : List (Nanos × Step)} (moves : Moves cases state event next)
    (ready : next.poll = some choice)
    (closed : next.run? cases [choice, .read, .join] = some last) :
    race cases state ((time, event) :: rest) = some (time, last) := by
  simp only [race, Option.bind_eq_bind, step?_of_moves moves, Option.bind_some, ready, closed]
  rfl

/-- The race goes on after an event that leaves the resolver waiting. -/
theorem race_cons_waits {cases : Nat} {state next : State} {time : Nanos} {event : Step}
    {rest : List (Nanos × Step)} (moves : Moves cases state event next) (idle : next.poll = none) :
    race cases state ((time, event) :: rest) = race cases next rest := by
  simp only [race, Option.bind_eq_bind, step?_of_moves moves, Option.bind_some, idle]

/-- A pass that is not the last leaves the resolver waiting. -/
theorem Waiting.pass {state : State} (waiting : Waiting state) {cases index : Nat} {report : Report}
    (missing : state.tally.passed + 1 ≠ counted cases) :
    Waiting (state.pass cases index report) where
  channel := waiting.channel
  permit := by
    simp only [State.pass, Tally.record, waiting.permit, missing, decide_false, Bool.or_self]
  timer := waiting.timer
  decision := waiting.decision
  snapshot := waiting.snapshot
  joined := waiting.joined

/-- A failure is all that the channel of a waiting resolver holds. -/
theorem Waiting.fail {state : State} (waiting : Waiting state) {cases : Nat} (room : 0 < cases)
    (failure : Failure) :
    state.fail cases failure =
      { state with finished := failure.index :: state.finished, channel := [failure] } := by
  simp only [State.fail, waiting.channel, List.length_nil, room, ↓reduceIte, List.nil_append]

/-- At the start the resolver waits. -/
theorem Waiting.start : Waiting {} := ⟨rfl, rfl, rfl, rfl, rfl, rfl⟩

theorem Waiting.poll {state : State} (waiting : Waiting state) : state.poll = none := by
  simp only [State.poll, waiting.channel, waiting.permit, waiting.timer, List.isEmpty_nil,
    Bool.not_true, Bool.false_eq_true, ↓reduceIte]

/-! ## The whole race -/

/-- The tally after the passes among events. -/
def tallied (tally : Tally) (events : List (Nanos × Step)) : Tally :=
  ((passedIn (events.map (·.2))).map (·.2)).foldl Tally.record tally

/-- **Where a race stops** between so many cases, of which `total` are counted: at an event that lets
the resolver decide, after passes that let it wait for one that is still missing. -/
structure StopsAt (cases total : Nat) (state : State) (events done : List (Nanos × Step))
    (time : Nanos) (step : Step) (rest : List (Nanos × Step)) (decision : Decision) (last : State) :
    Prop where
  split : events = done ++ (time, step) :: rest
  quiet : ∀ event ∈ done, event.2.pass?.isSome
  missing : state.tally.passed + done.length < total
  decides : Decides total (state.tally.passed + done.length) step decision
  raced : race cases state events = some (time, last)
  answered : last.resolution? cases =
    some (resolution total decision (tallied state.tally (done ++ [(time, step)])))

theorem tallied_pass {report : Report} (passed : report.outcome = .pass) (tally : Tally)
    (time : Nanos) (index : Nat) (events : List (Nanos × Step)) :
    tallied tally ((time, .finish index (.ok report)) :: events) =
      tallied (tally.record report) events := by
  simp only [tallied, passedIn, List.map_cons, List.filterMap_cons,
    Step.pass?_finish_pass passed, List.foldl_cons]

section Stop

variable {cases : Nat} {state : State} {time : Nanos} {index : Nat} {rest : List (Nanos × Step)}

/-- A race stops when the budget elapses. -/
theorem Waiting.stops_ring (waiting : Waiting state) (short : state.tally.passed < counted cases) :
    ∃ last, StopsAt cases (counted cases) state ((time, .ring) :: rest) [] time .ring rest
      .budgetElapsed last := by
  have rings : Moves cases state .ring { state with timer := true } := .ring waiting.timer
  have expires : Moves cases { state with timer := true } .expire _ :=
    .expire waiting.decision rfl
  obtain ⟨last, closed, answered⟩ := run?_close expires rfl waiting.snapshot waiting.joined
  have ready : State.poll { state with timer := true } = some .expire := by
    simp only [State.poll, waiting.channel, waiting.permit, List.isEmpty_nil, Bool.not_true,
      Bool.false_eq_true, ↓reduceIte]
  exact ⟨last, rfl, List.forall_mem_nil _, short, .ring, race_cons_decides rings ready closed,
    answered⟩

/-- A race stops when a case fails. -/
theorem Waiting.stops_failure (waiting : Waiting state)
    (short : state.tally.passed < counted cases) {how : Finish} (known : index < cases)
    (fresh : index ∉ state.finished) (fails : how.passes = false) :
    ∃ last, StopsAt cases (counted cases) state ((time, .finish index how) :: rest) [] time
      (.finish index how) rest (.failed (how.failure index)) last := by
  have moves : Moves cases state (.finish index how) _ := .fail known fresh waiting.joined fails
  rw [waiting.fail (Nat.zero_lt_of_lt known)] at moves
  have received : Moves cases { state with
      finished := index :: state.finished, channel := [how.failure index] } .receive _ :=
    .receive waiting.decision rfl
  obtain ⟨last, closed, answered⟩ := run?_close received rfl waiting.snapshot waiting.joined
  refine ⟨last, rfl, List.forall_mem_nil _, short, .failed fails,
    race_cons_decides moves rfl closed, ?_⟩
  rw [answered]
  simp only [tallied, passedIn, List.nil_append, List.map_cons, List.map_nil,
    List.filterMap_cons, Step.pass?_finish_fail fails, List.filterMap_nil, List.foldl_nil]

/-- A race stops when the last case passes. -/
theorem Waiting.stops_last (waiting : Waiting state) {report : Report} (known : index < cases)
    (fresh : index ∉ state.finished) (passed : report.outcome = .pass)
    (full : state.tally.passed + 1 = counted cases) :
    ∃ last, StopsAt cases (counted cases) state ((time, .finish index (.ok report)) :: rest) [] time
      (.finish index (.ok report)) rest .allPassed last := by
  have moves : Moves cases state (.finish index (.ok report)) _ :=
    .pass known fresh waiting.joined passed
  have takes : Moves cases (state.pass cases index report) .take _ :=
    .take waiting.decision (by
      simp only [State.pass, Tally.record, full, decide_true, Bool.or_true])
  obtain ⟨last, closed, answered⟩ := run?_close takes rfl waiting.snapshot waiting.joined
  have ready : (state.pass cases index report).poll = some .take := by
    simp only [State.poll, State.pass, Tally.record, waiting.channel, List.isEmpty_nil,
      Bool.not_true, Bool.false_eq_true, ↓reduceIte, full, decide_true, Bool.or_true]
  have missing : state.tally.passed < counted cases := by omega
  refine ⟨last, rfl, List.forall_mem_nil _, missing, .last passed full,
    race_cons_decides moves ready closed, ?_⟩
  rw [answered, List.nil_append, tallied_pass passed]
  rfl

/-- A race stops after a pass where it would have stopped from there. -/
theorem StopsAt.pass {done later : List (Nanos × Step)} {at_ : Nanos} {step : Step}
    {decision : Decision} {last : State} {report : Report} (waiting : Waiting state)
    (known : index < cases) (fresh : index ∉ state.finished) (passed : report.outcome = .pass)
    (missing : state.tally.passed + 1 ≠ counted cases)
    (stops : StopsAt cases (counted cases) (state.pass cases index report) rest done at_ step later
      decision last) :
    StopsAt cases (counted cases) state ((time, .finish index (.ok report)) :: rest)
      ((time, .finish index (.ok report)) :: done) at_ step later decision last := by
  have moves : Moves cases state (.finish index (.ok report)) _ :=
    .pass known fresh waiting.joined passed
  have length : (state.pass cases index report).tally.passed + done.length =
      state.tally.passed + ((time, Step.finish index (.ok report)) :: done).length := by
    simp only [State.pass, Tally.record, List.length_cons]
    omega
  exact {
    split := by rw [stops.split, List.cons_append]
    quiet := by
      intro event mem
      rcases List.mem_cons.mp mem with rfl | mem
      · simp only [Step.pass?_finish_pass passed, Option.isSome_some]
      · exact stops.quiet event mem
    missing := length ▸ stops.missing
    decides := length ▸ stops.decides
    raced := by rw [race_cons_waits moves (waiting.pass missing).poll, stops.raced]
    answered := by
      rw [stops.answered, List.cons_append, tallied_pass passed]
      rfl }

end Stop

/-- **A race under a clock stops at the first event that lets the resolver decide.** -/
theorem race_stops {cases : Nat} {events : List (Nanos × Step)} {state : State}
    (waiting : Waiting state) (pending : Pending cases state events)
    (short : state.tally.passed < counted cases) (rings : ∃ time, (time, Step.ring) ∈ events) :
    ∃ done time step rest decision last,
      StopsAt cases (counted cases) state events done time step rest decision last := by
  induction events generalizing state with
  | nil =>
    obtain ⟨time, mem⟩ := rings
    cases mem
  | cons event rest ih =>
    obtain ⟨time, step⟩ := event
    rcases pending.kinds _ List.mem_cons_self with rfl | ⟨index, how, rfl⟩
    · obtain ⟨last, stops⟩ := waiting.stops_ring short
      exact ⟨_, _, _, _, _, last, stops⟩
    · obtain ⟨known, fresh⟩ := pending.known index List.mem_cons_self
      cases passes : how.passes with
      | false =>
        obtain ⟨last, stops⟩ := waiting.stops_failure short known fresh passes
        exact ⟨_, _, _, _, _, last, stops⟩
      | true =>
        obtain ⟨report, rfl, passed⟩ := Finish.exists_of_passes passes
        by_cases full : state.tally.passed + 1 = counted cases
        · obtain ⟨last, stops⟩ := waiting.stops_last known fresh passed full
          exact ⟨_, _, _, _, _, last, stops⟩
        · -- a pass is still missing, and the timer is still to ring
          obtain ⟨ringing, mem⟩ := rings
          have rings : (ringing, Step.ring) ∈ rest := by
            rcases List.mem_cons.mp mem with eq | mem
            · cases eq
            · exact mem
          have short : state.tally.passed + 1 < counted cases := by omega
          obtain ⟨done, at_, step, later, decision, last, stops⟩ :=
            ih (waiting.pass full) (pending.tail rfl) short ⟨ringing, rings⟩
          exact ⟨_, _, _, _, _, last, stops.pass waiting known fresh passed full⟩

/-- Where there are no more cases than can be counted, a race waits for every one of them. -/
theorem race_split {cases : Nat} (few : cases < 2 ^ 32) {events : List (Nanos × Step)}
    {state : State} (waiting : Waiting state) (pending : Pending cases state events)
    (short : state.tally.passed < cases) (rings : ∃ time, (time, Step.ring) ∈ events) :
    ∃ done time step rest decision last,
      StopsAt cases cases state events done time step rest decision last := by
  have stops := race_stops waiting pending
  rw [counted_of_lt few] at stops
  exact stops short rings

end CodeJudge.Resolver
