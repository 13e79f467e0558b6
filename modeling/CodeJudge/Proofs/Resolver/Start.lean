import CodeJudge.Proofs.Resolver.Ending

/-!
# Starts in a race

The machine of a race tells how its cases finish. Here it is told as well when the runner is started for a
case: at most once, by the task of the case, and not any more when the cases have been cancelled; and no
case finishes that was not started. Some are never started, when the race is decided before their turn.

Without the starts this is the race that it was (`StartedRace.race`), and every race comes about in this way
(`exists_startedRace`), so that what is said of starts is said beside all that is said of races.
-/

namespace CodeJudge.Resolver

/-- The machine, and the cases that the runner was started for, in the order of the starts. -/
structure Field where
  state : State := {}
  started : List Nat := []

/-- Something that happens in a race. -/
inductive Happening
  /-- The runner is started for a case. -/
  | start (index : Nat)
  | step (step : Step)

/-- The case that finishes in a step, if one does. -/
def Step.finisher? : Step → Option Nat
  | .finish index _ => some index
  | _ => none

/-- The step of the machine, if it is one. -/
def Happening.step? : Happening → Option Step
  | .start _ => none
  | .step taken => some taken

/-- What happens next, for a job of so many cases; none when it cannot happen. -/
def Field.next? (cases : Nat) (field : Field) : Happening → Option Field
  | .start index =>
    if index < cases ∧ index ∉ field.started ∧ !field.state.joined then
      some { field with started := field.started ++ [index] }
    else none
  | .step step =>
    if step.finisher?.all (· ∈ field.started) then
      (field.state.step? cases step).map fun state => { field with state }
    else none

/-- The field after one thing and another has happened; none when one of them cannot happen. -/
def Field.run? (cases : Nat) (field : Field) (happenings : List Happening) : Option Field :=
  happenings.foldlM (Field.next? cases) field

/-- A race between so many cases that has come to its end, with the starts in it. -/
structure StartedRace (cases : Nat) where
  happenings : List Happening
  last : Field
  answer : Resolution
  ran : Field.run? cases {} happenings = some last
  ended : last.state.resolution? cases = some answer

variable {cases : Nat} {happenings : List Happening} {field next : Field}

/-! ## What can happen -/

/-- **What happens in a race**: the runner is started for a case of its own, or the machine takes a step, in
which no case finishes that was not started. -/
inductive Happens (cases : Nat) (field : Field) : Happening → Field → Prop
  | started {index : Nat} (known : index < cases) (fresh : index ∉ field.started) :
      Happens cases field (.start index) { field with started := field.started ++ [index] }
  | stepped {step : Step} {state : State} (finishes : ∀ index ∈ step.finisher?, index ∈ field.started)
      (taken : field.state.step? cases step = some state) :
      Happens cases field (.step step) { field with state }

theorem happens_of_next? {happening : Happening} (happened : field.next? cases happening = some next) :
    Happens cases field happening next := by
  cases happening with
  | start index =>
    simp only [Field.next?] at happened
    split at happened
    · rename_i allowed
      cases happened
      exact .started allowed.1 allowed.2.1
    · cases happened
  | step step =>
    simp only [Field.next?] at happened
    split at happened
    · rename_i finishes
      obtain ⟨state, taken, rfl⟩ := Option.map_eq_some_iff.mp happened
      simp only [Option.all_eq_true, decide_eq_true_eq] at finishes
      exact .stepped finishes taken
    · cases happened

/-! ## What has been started -/

/-- **What the starts of a race have to do with it.** -/
structure Lineup (cases : Nat) (happenings : List Happening) (field : Field) : Prop where
  /-- Without the starts, it is a run of the machine. -/
  ran : State.run? cases {} (happenings.filterMap Happening.step?) = some field.state
  once : field.started.Nodup
  known : ∀ index ∈ field.started, index < cases
  finished : ∀ index how, Step.finish index how ∈ happenings.filterMap Happening.step? → index ∈ field.started

theorem Lineup.follow (lineup : Lineup cases happenings field) {happening : Happening}
    (happens : Happens cases field happening next) : Lineup cases (happenings ++ [happening]) next := by
  cases happens with
  | @started index known fresh =>
    have same : (happenings ++ [Happening.start index]).filterMap Happening.step? =
        happenings.filterMap Happening.step? := by
      rw [List.filterMap_append]
      exact List.append_nil _
    refine ⟨?_, ?_, ?_, ?_⟩
    · rw [same]
      exact lineup.ran
    · refine List.nodup_append.mpr ⟨lineup.once, List.nodup_singleton _, ?_⟩
      rintro earlier mem _ new rfl
      rw [List.mem_singleton.mp new] at mem
      exact fresh mem
    · intro other mem
      rcases List.mem_append.mp mem with mem | mem
      · exact lineup.known other mem
      · rw [List.mem_singleton.mp mem]
        exact known
    · intro other how mem
      rw [same] at mem
      exact List.mem_append_left _ (lineup.finished other how mem)
  | @stepped step state finishes taken =>
    have more : (happenings ++ [Happening.step step]).filterMap Happening.step? =
        happenings.filterMap Happening.step? ++ [step] := by
      rw [List.filterMap_append]
      rfl
    refine ⟨?_, lineup.once, lineup.known, ?_⟩
    · rw [more, State.run?, foldlM_append_event, ← State.run?, lineup.ran]
      exact taken
    · intro index how mem
      rw [more] at mem
      rcases List.mem_append.mp mem with mem | mem
      · exact lineup.finished index how mem
      · rw [List.mem_singleton] at mem
        subst mem
        exact finishes index rfl

theorem lineup_of_run? (ran : Field.run? cases {} happenings = some field) :
    Lineup cases happenings field := by
  refine foldlM_induction (motive := Lineup cases) ⟨rfl, List.nodup_nil,
    fun _ mem => absurd mem List.not_mem_nil, fun _ _ mem => absurd mem List.not_mem_nil⟩ ?_ ran
  intro happenings field happening next ran lineup happened
  exact lineup.follow (happens_of_next? happened)

namespace StartedRace

/-- The race without the starts. -/
def race (started : StartedRace cases) : Race cases where
  steps := started.happenings.filterMap Happening.step?
  last := started.last.state
  answer := started.answer
  ran := (lineup_of_run? started.ran).ran
  ended := started.ended

/-- The cases that the runner was started for, in the order of the starts. -/
def started (started : StartedRace cases) : List Nat := started.last.started

theorem started_nodup (started : StartedRace cases) : started.started.Nodup :=
  (lineup_of_run? started.ran).once

theorem started_lt (started : StartedRace cases) : ∀ index ∈ started.started, index < cases :=
  (lineup_of_run? started.ran).known

theorem started_of_finish (started : StartedRace cases) {index : Nat} {how : Finish}
    (finished : .finish index how ∈ started.race.steps) : index ∈ started.started :=
  (lineup_of_run? started.ran).finished index how finished

end StartedRace

/-! ## Every race -/

/-- All cases can be started before anything else. -/
theorem run?_starts {count : Nat} (few : count ≤ cases) :
    Field.run? cases {} ((List.range count).map .start) = some { started := List.range count } := by
  induction count with
  | zero => rfl
  | succ count ih =>
    have fresh : count ∉ List.range count := List.not_mem_range_self
    have known : count < cases := few
    rw [List.range_succ, List.map_append, Field.run?, List.map_singleton, foldlM_append_event, ← Field.run?,
      ih (Nat.le_of_succ_le few), Option.bind_some]
    simp only [Field.next?, known, fresh, not_false_eq_true, Bool.not_false, and_self, ↓reduceIte]

/-- Once all cases have been started, the machine takes its steps as it does without starts. -/
theorem run?_steps {state last : State} {steps : List Step} (ran : state.run? cases steps = some last) :
    Field.run? cases { state, started := List.range cases } (steps.map .step) =
      some { state := last, started := List.range cases } := by
  induction steps generalizing state with
  | nil =>
    cases ran
    rfl
  | cons step rest ih =>
    obtain ⟨between, taken, later⟩ := Option.bind_eq_some_iff.mp ran
    -- the machine lets no case finish that is not one of the job's
    have finishes : step.finisher?.all (· ∈ List.range cases) = true := by
      cases moves_of_step? taken with
      | pass known => simpa [Step.finisher?] using known
      | fail known => simpa [Step.finisher?] using known
      | _ => rfl
    rw [List.map_cons, Field.run?, List.foldlM_cons]
    simp only [Field.next?, finishes, taken, ↓reduceIte, Option.map_some]
    exact ih later

/-- **Every race comes about with all cases started at once.** -/
theorem exists_startedRace (race : Race cases) :
    ∃ started : StartedRace cases, started.race.answer = race.answer ∧ started.started = List.range cases := by
  have ran : Field.run? cases {} ((List.range cases).map .start ++ race.steps.map .step) =
      some { state := race.last, started := List.range cases } := by
    rw [Field.run?, List.foldlM_append, ← Field.run?, run?_starts (Nat.le_refl cases)]
    exact run?_steps race.ran
  exact ⟨⟨_, _, race.answer, ran, race.ended⟩, rfl, rfl⟩

end CodeJudge.Resolver
