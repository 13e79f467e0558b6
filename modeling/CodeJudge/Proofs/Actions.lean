/-!
# Actions

An operation of a host or of a bench is an action on a world that is left open. What an action does is
the world that it leads to; `noting` writes down in addition that it was done, and what came of it, so
that the order of the operations can be spoken of. An operation of the store may fail instead.
-/

namespace CodeJudge

variable {W A E α β : Type}

/-- What comes well out of two actions, the first of them has come well out of. -/
theorem exists_of_bind_ok {action : Except E α} {next : α → Except E β} {result : β}
    (done : action >>= next = .ok result) :
    ∃ between, action = .ok between ∧ next between = .ok result := by
  cases action with
  | error fault => cases done
  | ok between => exact ⟨between, rfl, done⟩

/-- Something comes well out of two actions exactly where it does out of both. -/
theorem bind_eq_ok {action : Except E α} {next : α → Except E β} {result : β} :
    action >>= next = .ok result ↔ ∃ between, action = .ok between ∧ next between = .ok result := by
  refine ⟨exists_of_bind_ok, ?_⟩
  rintro ⟨between, rfl, done⟩
  exact done

/-- Two actions fail where the first of them does, or the second after it. -/
theorem bind_eq_error {action : Except E α} {next : α → Except E β} {fault : E} :
    action >>= next = .error fault ↔
      action = .error fault ∨ ∃ between, action = .ok between ∧ next between = .error fault := by
  cases action with
  | error cause =>
    constructor
    · rintro ⟨⟩
      exact .inl rfl
    · rintro (⟨⟨⟩⟩ | ⟨_, ⟨⟩, _⟩)
      rfl
  | ok between =>
    constructor
    · exact fun failed => .inr ⟨between, rfl, failed⟩
    · rintro (⟨⟨⟩⟩ | ⟨_, same, failed⟩)
      cases same
      exact failed

/-- What is made of the result of an action fails with what the action fails with. -/
theorem error_of_map_error {action : Except E α} {make : α → β} {fault : E}
    (failed : make <$> action = .error fault) : action = .error fault := by
  cases action with
  | error cause =>
    cases failed
    rfl
  | ok result => cases failed

/-- What every step does to a state that comes out well, many do one after another. -/
theorem rel_of_foldlM_ok {S : Type} {rel : S → S → Prop} (refl : ∀ state, rel state state)
    (trans : ∀ {first second third}, rel first second → rel second third → rel first third)
    {step : S → α → Except E S}
    (steps : ∀ before entry after, step before entry = .ok after → rel before after)
    {entries : List α} {before after : S} (done : entries.foldlM step before = .ok after) :
    rel before after := by
  induction entries generalizing before with
  | nil =>
    cases done
    exact refl _
  | cons entry rest ih =>
    rw [List.foldlM_cons] at done
    obtain ⟨between, first, rest⟩ := exists_of_bind_ok done
    exact trans (steps _ _ _ first) (ih rest)

/-- Where steps come out well, the last of them does after those before it. -/
theorem exists_of_foldlM_append_ok {S : Type} {step : S → α → Except E S} {entries : List α} {entry : α}
    {before after : S} (done : (entries ++ [entry]).foldlM step before = .ok after) :
    ∃ between, entries.foldlM step before = .ok between ∧ step between entry = .ok after := by
  rw [List.foldlM_append] at done
  simp only [List.foldlM_cons, List.foldlM_nil, bind_pure] at done
  exact exists_of_bind_ok done

/-- Many steps fail at one of them, with what it fails with after those before it. -/
theorem foldlM_eq_error {S : Type} {step : S → α → Except E S} {entries : List α} {before : S}
    {fault : E} :
    entries.foldlM step before = .error fault ↔
      ∃ made entry rest between, entries = made ++ entry :: rest ∧
        made.foldlM step before = .ok between ∧ step between entry = .error fault := by
  constructor
  · intro failed
    induction entries generalizing before with
    | nil => cases failed
    | cons first rest ih =>
      rw [List.foldlM_cons] at failed
      cases done : step before first with
      | error cause =>
        rw [done] at failed
        cases failed
        exact ⟨[], first, rest, before, rfl, rfl, done⟩
      | ok next =>
        rw [done] at failed
        obtain ⟨made, entry, others, between, split, came, refused⟩ := ih failed
        refine ⟨first :: made, entry, others, between, ?_, ?_, refused⟩
        · rw [split, List.cons_append]
        · rw [List.foldlM_cons, done]
          exact came
  · rintro ⟨made, entry, rest, between, rfl, came, refused⟩
    rw [List.foldlM_append, came]
    show (entry :: rest).foldlM step between = _
    rw [List.foldlM_cons, refused]
    rfl

/-- Where one of many steps fails in every state, there is a step that fails. -/
theorem exists_foldlM_error {S : Type} {step : S → α → Except E S} {entries : List α} {entry : α}
    (there : entry ∈ entries) (fails : ∀ state, ∃ fault, step state entry = .error fault) (before : S) :
    ∃ fault, entries.foldlM step before = .error fault := by
  obtain ⟨made, rest, rfl⟩ := List.append_of_mem there
  cases came : made.foldlM step before with
  | error fault =>
    rw [List.foldlM_append, came]
    exact ⟨fault, rfl⟩
  | ok between =>
    obtain ⟨fault, failed⟩ := fails between
    exact ⟨fault, foldlM_eq_error.mpr ⟨made, entry, rest, between, rfl, came, failed⟩⟩

/-- What is returned leaves the world as it is. -/
theorem run_pure (result : α) (world : W) :
    (pure result : StateM W α).run world = (result, world) := rfl

/-- An action goes on in the world that the one before it has led to. -/
theorem run_bind (action : StateM W α) (next : α → StateM W β) (world : W) :
    (action >>= next).run world = (next (action.run world).1).run (action.run world).2 := rfl

/-- What is made of the result of an action leaves the world that the action has led to. -/
theorem run_map (make : α → β) (action : StateM W α) (world : W) :
    (make <$> action).run world = (make (action.run world).1, (action.run world).2) := rfl

/-- Does an action, and notes what came of it. -/
def noting (note : α → A) (action : StateM W α) : StateM (W × List A) α := fun (world, notes) =>
  let (result, world) := action world
  (result, world, notes ++ [note result])

theorem noting_run (note : α → A) (action : StateM W α) (world : W) (notes : List A) :
    (noting note action).run (world, notes) =
      ((action.run world).1, (action.run world).2, notes ++ [note (action.run world).1]) := rfl

/-- Does an action, and notes all that its result tells. -/
def recording (notes : α → List A) (action : StateM W α) : StateM (W × List A) α := fun (world, earlier) =>
  let (result, world) := action world
  (result, world, earlier ++ notes result)

theorem recording_run (notes : α → List A) (action : StateM W α) (world : W) (earlier : List A) :
    (recording notes action).run (world, earlier) =
      ((action.run world).1, (action.run world).2, earlier ++ notes (action.run world).1) := rfl

/-- Does an action of which nothing is to be noted. -/
def unnoted (action : StateM W α) : StateM (W × List A) α := recording (fun _ => []) action

theorem unnoted_run (action : StateM W α) (world : W) (earlier : List A) :
    (unnoted action).run (world, earlier) = ((action.run world).1, (action.run world).2, earlier) :=
  congrArg (fun notes => ((action.run world).1, (action.run world).2, notes)) (List.append_nil earlier)

end CodeJudge
