import Mathlib.Data.List.Induction

/-!
# Runs

A run takes a state through events one after another, each of which can happen or not where the run has
come to. What is carried on by everything that can happen holds wherever a run has come to. What one event
has begun goes on until another ends it (`Since`).
-/

namespace CodeJudge

variable {S E : Type} {next? : S → E → Option S} {first : S}

/-- One more event of a run is what happens next where the run has come to. -/
theorem foldlM_append_event (next? : S → E → Option S) (first : S) (events : List E) (event : E) :
    (events ++ [event]).foldlM next? first =
      (events.foldlM next? first).bind fun last => next? last event := by
  simp only [List.foldlM_append, List.foldlM_cons, List.foldlM_nil, bind_pure]
  rfl

/-- **Induction along a run**: what holds at its start, and is carried on by everything that happens,
holds wherever it has come to. -/
theorem foldlM_induction {motive : List E → S → Prop} (start : motive [] first)
    (follow : ∀ {events state event next}, events.foldlM next? first = some state →
      motive events state → next? state event = some next → motive (events ++ [event]) next)
    {events : List E} {last : S} (ran : events.foldlM next? first = some last) :
    motive events last := by
  induction events using List.reverseRecOn generalizing last with
  | nil =>
    cases ran
    exact start
  | append_singleton events event ih =>
    rw [foldlM_append_event] at ran
    obtain ⟨before, earlier, happened⟩ := Option.bind_eq_some_iff.mp ran
    exact follow earlier (ih earlier) happened

/-! ## Since an event -/

/-- **Since**: one event of a run begins something, and none that came after it has ended it. -/
def Since (begins ends : E → Prop) (events : List E) : Prop :=
  ∃ earlier event later, events = earlier ++ event :: later ∧ begins event ∧ ∀ event ∈ later, ¬ ends event

theorem not_since_nil {begins ends : E → Prop} : ¬ Since begins ends [] := by
  rintro ⟨earlier, event, later, split, -⟩
  exact List.append_ne_nil_of_right_ne_nil _ (List.cons_ne_nil _ _) split.symm

/-- After one more event, it is that event that begins it, or it was there before and goes on. -/
theorem since_append {begins ends : E → Prop} {events : List E} {event : E} :
    Since begins ends (events ++ [event]) ↔ begins event ∨ ¬ ends event ∧ Since begins ends events := by
  constructor
  · rintro ⟨earlier, first, later, split, begun, goes⟩
    -- the event is the last of the later ones, unless there is none
    rcases List.eq_nil_or_concat later with rfl | ⟨between, last, rfl⟩
    · obtain ⟨-, same⟩ := List.append_inj' split rfl
      exact .inl (List.singleton_inj.mp same ▸ begun)
    · rw [List.concat_eq_append] at split goes
      rw [← List.cons_append, ← List.append_assoc] at split
      obtain ⟨front, same⟩ := List.append_inj' split rfl
      cases List.singleton_inj.mp same
      refine .inr ⟨goes _ (List.mem_append_right _ List.mem_cons_self), earlier, first, between, front, begun, ?_⟩
      intro event there
      exact goes event (List.mem_append_left _ there)
  · rintro (begun | ⟨goesOn, earlier, first, later, split, begun, goes⟩)
    · exact ⟨events, event, [], rfl, begun, fun _ there => absurd there List.not_mem_nil⟩
    · refine ⟨earlier, first, later ++ [event], ?_, begun, ?_⟩
      · rw [split, List.append_assoc, List.cons_append]
      · intro other there
        rcases List.mem_append.mp there with before | last
        · exact goes other before
        · cases List.mem_singleton.mp last
          exact goesOn

/-! ## Parties of a run -/

variable {α : Type} {active : List α} {new moved found : α} {index other : Nat}

/-- Where one more has come, it stands last. -/
theorem getElem?_come (there : (active ++ [new])[index]? = some found) :
    active[index]? = some found ∨ index = active.length ∧ found = new := by
  rw [List.getElem?_append] at there
  split at there
  · exact .inl there
  · rename_i late
    rw [List.getElem?_singleton] at there
    split at there
    · exact .inr ⟨by omega, (Option.some.inj there).symm⟩
    · cases there

/-- Where one has made a step, the others stand as they were. -/
theorem getElem?_step (there : (active.set index moved)[other]? = some found) :
    index = other ∧ found = moved ∨ index ≠ other ∧ active[other]? = some found := by
  rw [List.getElem?_set] at there
  split at there
  · rename_i same
    split at there
    · exact .inl ⟨same, (Option.some.inj there).symm⟩
    · cases there
  · rename_i other
    exact .inr ⟨other, there⟩

end CodeJudge
