import CodeJudge.Proofs.Resolver.Race

/-!
# Which event decides

The resolver waits for three events: a failure, the last pass, and the end of the budget. When it looks,
more than one of them may have happened, and it takes any that is ready. What it takes tells what had
happened by then, and no more; after a budget that has elapsed it reads the tally once more, so that passes
which come late still count.

`Choosing` says at which step the resolver has decided, and from which state.

**The law** (`earliest_decides`): all passes before the end of the budget are an acceptance; while the budget
lasts, the first failure decides; and where no failure has come, the tally decides.

**What it does not establish.** Which event decides when the resolver looks after both a failure and the end
of the budget.
-/

namespace CodeJudge.Resolver

/-! ## The choice -/

/-- Whether the resolver decides with a step. -/
def Step.decides : Step → Bool
  | .receive | .take | .expire => true
  | _ => false

/-- **What the resolver can decide**, in a state in which it looks. -/
inductive Chooses (state : State) : Step → Decision → Prop
  | receive {failure : Failure} {rest : List Failure} (sent : state.channel = failure :: rest) :
      Chooses state .receive (.failed failure)
  | take (stored : state.permit = true) : Chooses state .take .allPassed
  | expire (rung : state.timer = true) : Chooses state .expire .budgetElapsed

/-- Where the resolver stands with its decision: it has not decided yet, or it has at one point of the
history. -/
structure Choosing (cases : Nat) (steps : List Step) (state : State) : Prop where
  undecided : state.decision = none → ∀ step ∈ steps, step.decides = false
  decided : ∀ decision, state.decision = some decision → ∃ waited choice later chooser,
    steps = waited ++ choice :: later ∧ (∀ step ∈ waited, step.decides = false) ∧
      choice.decides = true ∧ State.run? cases {} waited = some chooser ∧
      chooser.decision = none ∧ Chooses chooser choice decision

variable {cases : Nat} {steps : List Step} {state next : State} {step : Step} {decision : Decision}

/-- Nothing is decided at the start. -/
theorem Choosing.start : Choosing cases [] {} where
  undecided := fun _ _ mem => absurd mem List.not_mem_nil
  decided := fun _ some_ => by cases some_

/-- A move that decides nothing leaves the choice where it was. -/
theorem Choosing.quiet (choosing : Choosing cases steps state) (other : step.decides = false)
    (same : next.decision = state.decision) : Choosing cases (steps ++ [step]) next where
  undecided := by
    intro none_ found mem
    rw [same] at none_
    rcases List.mem_append.mp mem with mem | mem
    · exact choosing.undecided none_ found mem
    · obtain rfl := List.mem_singleton.mp mem
      exact other
  decided := by
    intro decision some_
    rw [same] at some_
    obtain ⟨waited, choice, later, chooser, rfl, rest⟩ := choosing.decided decision some_
    exact ⟨waited, choice, later ++ [step], chooser, by rw [List.append_assoc, List.cons_append], rest⟩

/-- A move that decides is the choice. -/
theorem Choosing.choose (choosing : Choosing cases steps state)
    (ran : State.run? cases {} steps = some state) (waiting : state.decision = none)
    (decides : step.decides = true) (chooses : Chooses state step decision)
    (now : next.decision = some decision) : Choosing cases (steps ++ [step]) next where
  undecided := by
    intro none_
    rw [now] at none_
    cases none_
  decided := by
    intro other same
    rw [now] at same
    cases same
    exact ⟨steps, step, [], state, rfl, choosing.undecided waiting, decides, ran, waiting, chooses⟩

/-- The resolver decides once. -/
theorem choosing_of_run? (ran : State.run? cases {} steps = some state) :
    Choosing cases steps state := by
  refine run?_induction (motive := Choosing cases) .start ?_ ran
  intro steps state step next ran choosing moves
  cases moves with
  | pass known fresh racing passed => exact choosing.quiet rfl rfl
  | fail known fresh racing failed => exact choosing.quiet rfl (State.fail_decision ..)
  | ring silent => exact choosing.quiet rfl rfl
  | receive waiting sent => exact choosing.choose ran waiting rfl (.receive sent) rfl
  | take waiting stored => exact choosing.choose ran waiting rfl (.take stored) rfl
  | expire waiting rung => exact choosing.choose ran waiting rfl (.expire rung) rfl
  | read decided unread => exact choosing.quiet rfl rfl
  | join seen racing => exact choosing.quiet rfl rfl

/-! ## What a choice tells -/

/-- **What had happened when the resolver decided**: the failure was the first to be signalled, all cases
had passed, or the budget had elapsed. -/
def Told (cases : Nat) (waited : List Step) : Decision → Prop
  | .failed failure => ∃ rest, failedIn waited = failure :: rest
  | .allPassed => passers waited = Finset.range cases
  | .budgetElapsed => Step.ring ∈ waited

/-- The resolver takes the failure that was signalled first, the permit of the last pass, or a timer that
has rung. -/
theorem Chooses.told (tracks : Tracks cases steps state) (waiting : state.decision = none)
    (chooses : Chooses state step decision) : Told cases steps decision := by
  cases chooses with
  | receive sent =>
    have signalled := tracks.sent
    simp only [State.received, waiting, List.nil_append] at signalled
    exact ⟨_, signalled.trans sent⟩
  | take stored => exact tracks.passers_eq_iff.mpr (tracks.permit (.inl stored))
  | expire rung => exact tracks.timer (.inl rung)

/-! ## Along a history -/

/-- What passes early has passed later. -/
theorem passers_mono {early : List Step} (earlier : early <+: steps) :
    passers early ⊆ passers steps := by
  intro index mem
  obtain ⟨report, taken, passed⟩ := mem_passers.mp mem
  exact mem_passers.mpr ⟨report, earlier.subset taken, passed⟩

/-- What was signalled early stands first in what is signalled later. -/
theorem failedIn_prefix {early : List Step} (earlier : early <+: steps) :
    failedIn early <+: failedIn steps :=
  earlier.filterMap _

/-- Where all cases have passed, none has failed. -/
theorem Tracks.failedIn_eq_nil (tracks : Tracks cases steps state)
    (all : passers steps = Finset.range cases) : failedIn steps = [] := by
  have full := tracks.passers_eq_iff.mp all
  have finished := tracks.length_add
  have bound := tracks.finished_le
  rw [tracks.passed_eq] at full
  exact List.eq_nil_of_length_eq_zero (by omega)

/-- What all cases have passed by, they have passed by later. -/
theorem Tracks.passers_eq_of_prefix (tracks : Tracks cases steps state) {early : List Step}
    (earlier : early <+: steps) (all : passers early = Finset.range cases) :
    passers steps = Finset.range cases :=
  (tracks.passers_subset).antisymm (all ▸ passers_mono earlier)

/-- A step that comes early and is not in a longer history comes after it. -/
theorem prefix_of_mem_of_not_mem {early late : List Step} {mark : Step} (first : early <+: steps)
    (second : late <+: steps) (mem : mark ∈ late) (other : mark ∉ early) : early <+: late := by
  rcases List.prefix_or_prefix_of_prefix first second with before | after
  · exact before
  · exact absurd (after.subset mem) other

/-- The failure of a finish before which none has failed is the first of a history. -/
theorem failedIn_of_first {early : List Step} {index : Nat} {how : Finish}
    (came : early ++ [.finish index how] <+: steps) (failed : how.passes = false)
    (none_ : failedIn early = []) : ∃ rest, failedIn steps = how.failure index :: rest := by
  obtain ⟨rest, whole⟩ := failedIn_prefix came
  rw [failedIn_append_step, none_, Step.failure?_finish_fail failed, Option.toList_some,
    List.nil_append, List.singleton_append] at whole
  exact ⟨rest, whole.symm⟩

/-! ## The verdict -/

/-- **How the order of the events decides**, where `waited` are the steps before the resolver decides and
`before` those before it reads the tally. -/
structure InOrder (cases : Nat) (steps waited before : List Step) (answer : Resolution) : Prop where
  /-- All cases pass before the budget has elapsed. -/
  passed : ∀ early, early <+: steps → Step.ring ∉ early → passers early = Finset.range cases →
    answer.verdict = .accepted ∧ answer.output = ""
  /-- A case fails, none has failed before it, and the budget lasts until the resolver decides. -/
  failed : ∀ early index how, early ++ [.finish index how] <+: steps → how.passes = false →
    failedIn early = [] → Step.ring ∉ waited →
    answer.verdict = how.verdict ∧ answer.output = how.output
  /-- No case has failed when the resolver decides. -/
  unfailed : failedIn waited = [] → answer.output = "" ∧
    answer.verdict =
      if passers before = Finset.range cases then .accepted else .timeLimitExceeded
  /-- A time limit is exceeded only after the budget. -/
  late : answer.verdict = .timeLimitExceeded → Step.ring ∈ waited

/-- Where no failure was there to decide, the tally decides. -/
theorem Told.unfailed {waited : List Step} (told : Told cases waited decision)
    (tracks : Tracks cases steps state) (later : waited <+: steps) (none_ : failedIn waited = []) :
    (resolution cases decision state.tally).output = "" ∧
      (resolution cases decision state.tally).verdict =
        if passers steps = Finset.range cases then .accepted else .timeLimitExceeded := by
  cases decision with
  | failed failure =>
    obtain ⟨rest, some_⟩ := told
    rw [none_] at some_
    cases some_
  | allPassed =>
    rw [if_pos (tracks.passers_eq_of_prefix later told)]
    exact ⟨rfl, rfl⟩
  | budgetElapsed =>
    simp only [resolution, tracks.passers_eq_iff]
    split <;> exact ⟨rfl, rfl⟩

/-- What the resolver had been told tells how the order of the events has decided. -/
theorem Told.inOrder {waited before : List Step} {reader : State} (told : Told cases waited decision)
    (tracks : Tracks cases steps state) (reading : Tracks cases before reader)
    (decided : waited <+: before) (read : before <+: steps) :
    InOrder cases steps waited before (resolution cases decision reader.tally) where
  passed := by
    intro early came quiet all
    have none_ : failedIn waited = [] := by
      have whole := failedIn_prefix (decided.trans read)
      rw [tracks.failedIn_eq_nil (tracks.passers_eq_of_prefix came all)] at whole
      exact List.prefix_nil.mp whole
    obtain ⟨output, verdict⟩ := told.unfailed reading decided none_
    refine ⟨?_, output⟩
    cases decision with
    | failed failure =>
      obtain ⟨rest, some_⟩ := told
      rw [none_] at some_
      cases some_
    | allPassed => rfl
    | budgetElapsed =>
      have first := prefix_of_mem_of_not_mem came (decided.trans read) told quiet
      rw [verdict, if_pos (reading.passers_eq_of_prefix (first.trans decided) all)]
  failed := by
    intro early index how came fails none_ lasts
    obtain ⟨rest, failures⟩ := failedIn_of_first came fails none_
    cases decision with
    | failed failure =>
      obtain ⟨others, some_⟩ := told
      obtain ⟨more, whole⟩ := failedIn_prefix (decided.trans read)
      rw [some_, failures] at whole
      cases whole
      exact ⟨rfl, rfl⟩
    | allPassed =>
      have all := tracks.passers_eq_of_prefix (decided.trans read) told
      rw [tracks.failedIn_eq_nil all] at failures
      cases failures
    | budgetElapsed => exact absurd told lasts
  unfailed := told.unfailed reading decided
  late := by
    intro exceeded
    cases decision with
    | failed failure =>
      obtain ⟨rest, some_⟩ := told
      obtain ⟨_, _, how, _, _, _, _, rfl⟩ := first_failure some_
      exact absurd exceeded how.verdict_ne_timeLimitExceeded
    | allPassed => cases exceeded
    | budgetElapsed => exact told

/-- **The earliest event decides, as far as the resolver looks in time.** Of a job with no more cases than
can be counted, when all cases pass before the budget has elapsed, the job is accepted; when a case fails
and the budget lasts until the resolver decides, the first failure decides the verdict and the output; and
when no case has failed by then, the job is accepted if all cases have passed when the tally is read, and
exceeds the time limit otherwise, which it does only if the budget has elapsed by then. -/
theorem earliest_decides {answer : Resolution} (few : cases < 2 ^ 32)
    (ran : State.run? cases {} steps = some state) (ended : state.resolution? cases = some answer) :
    ∃ waited choice between after, steps = (waited ++ choice :: between) ++ .read :: after ∧
      (∀ step ∈ waited, step.decides = false) ∧ choice.decides = true ∧
      Step.read ∉ waited ++ choice :: between ∧
      InOrder cases steps waited (waited ++ choice :: between) answer := by
  unfold State.resolution? at ended
  split at ended
  · rename_i decision snapshot decided seen _
    cases ended
    obtain ⟨before, after, reader, _, split_, first, read, rfl, then_, now⟩ :=
      (reading_of_run? ran).split snapshot seen
    rw [decided] at now
    cases now
    obtain ⟨waited, choice, between, chooser, rfl, none_, decides, waited_, waiting, chooses⟩ :=
      (choosing_of_run? read).decided decision then_
    have told := chooses.told (tracks_of_run? few waited_) waiting
    refine ⟨waited, choice, between, after, split_, none_, decides, first, ?_⟩
    rw [counted_of_lt few]
    exact told.inOrder (tracks_of_run? few ran) (tracks_of_run? few read) (List.prefix_append ..)
      ⟨_, split_.symm⟩
  · cases ended

/-- A race of two cases, one of which fails before the budget has elapsed. -/
def failureFirst : List Step :=
  [.finish 1 (.ok ⟨.pass, 7, 3, "b"⟩), .finish 0 (.ok ⟨.wrongAnswer, 9, 2, "a"⟩), .receive, .ring,
    .read, .join]

/-- Where that race ends. -/
def firstFailed : State where
  tally := ⟨1, 7, 3⟩
  timer := true
  finished := [0, 1]
  decision := some (.failed ⟨0, .wrongAnswer, some ⟨.wrongAnswer, 9, 2, "a"⟩, "a"⟩)
  snapshot := some ⟨1, 7, 3⟩
  joined := true

theorem earliest_decides_failureFirst :
    2 < 2 ^ 32 ∧ State.run? 2 {} failureFirst = some firstFailed ∧
      firstFailed.resolution? 2 = some ⟨.wrongAnswer, 1, 2, 0, 3, "a"⟩ ∧
      ∃ waited choice between after,
        failureFirst = (waited ++ choice :: between) ++ .read :: after ∧
        (∀ step ∈ waited, step.decides = false) ∧ choice.decides = true ∧
        Step.read ∉ waited ++ choice :: between ∧
        InOrder 2 failureFirst waited (waited ++ choice :: between)
          ⟨.wrongAnswer, 1, 2, 0, 3, "a"⟩ :=
  have ran : State.run? 2 {} failureFirst = some firstFailed := by decide
  have ended : firstFailed.resolution? 2 = some ⟨.wrongAnswer, 1, 2, 0, 3, "a"⟩ := by decide
  ⟨by decide, ran, ended, earliest_decides (by decide) ran ended⟩

/-- A race of one case, which fails before the budget elapses, while the resolver looks only after it. -/
def lateLook : List Step :=
  [.finish 0 (.ok ⟨.wrongAnswer, 9, 2, "a"⟩), .ring, .expire, .read, .join]

/-- A race of one case, which passes after the budget has elapsed and before the resolver looks. -/
def latePassOnly : List Step :=
  [.ring, .finish 0 (.ok ⟨.pass, 9, 2, "a"⟩), .take, .read, .join]

/-- A race of more cases than can be counted, of which one has passed. -/
def onePass : List Step :=
  [.finish 0 (.ok ⟨.pass, 9, 2, "a"⟩), .take, .read, .join]

/-- The order of the events alone does not decide: a failure before the end of the budget may come out as
its end, a last pass after it may still be an acceptance, and one pass may be taken for all. -/
theorem order_alone_does_not_decide :
    (State.run? 1 {} lateLook).bind (State.resolution? 1) =
      some ⟨.timeLimitExceeded, 0, 1, 0, 0, ""⟩ ∧
    (State.run? 1 {} latePassOnly).bind (State.resolution? 1) = some ⟨.accepted, 1, 1, 0, 2, ""⟩ ∧
    (State.run? (2 ^ 32 + 1) {} onePass).bind (State.resolution? (2 ^ 32 + 1)) =
      some ⟨.accepted, 1, 1, 0, 2, ""⟩ := by
  decide

end CodeJudge.Resolver
