import CodeJudge.Proofs.Coordinator.Credit

/-!
# The count of solved problems

Looking for an earlier solution, keeping the judgement and counting are three calls of the store, and
any of them can fail while other submissions of the same user are under way. This module relates the
count of a user to the judgements in every interleaving.

`Accounts` is the invariant: it ties the judgements, the credits that were asked for, and what the
holder of the lock has seen to each other.

**The law** (`solved_count_exact`): credits are asked for accepted judgements only, and once for a user
and a problem; a count is the number of the credits that were made. While the lock is free it is the
number of problems that the user has solved, less those whose first accepted judgement was left without
its credit by a fault.

**What it does not establish.** That a submission comes to its end, and that waiting for the lock is
fair.
-/

namespace CodeJudge.Coordinator

open Store (Id Database Tables NewJudgement)

/-! ## The invariant -/

/-- **What is known of a submission at each of its stages.** The holder of the lock knows whether the
problem has been solved before, and when it asks for credit no one else has. -/
def Fits (tables : Tables) (credits : List Credit) (request : Request) : Stage → Prop
  | .findUser | .ended _ => True
  | .findProblem | .keep _ | .readCases _ _ | .readLimits _ _ _ | .dispatch _ _ =>
    tables.userExists request.user = true
  | .wait judgement _ | .findPrior judgement _ => tables.userExists judgement.user = true
  | .record judgement _ solved =>
    tables.userExists judgement.user = true ∧
      solved = tables.priorAccepted judgement.user judgement.problem
  | .count judgement _ id =>
    tables.userExists judgement.user = true ∧ judgement.verdict = .accepted ∧
      (tables.firstAccepted? judgement.user judgement.problem).map (·.id) = some id ∧
      ∀ credit ∈ credits, credit.aim ≠ aim judgement

/-- **What a run has to do with the credits that were asked for.** -/
structure Accounts (run : Run) (credits : List Credit) : Prop where
  numbered : run.database.tables.Numbered
  /-- The lock has room for one. -/
  alone : ∀ (index other : Nat) (active holder : Active), run.active[index]? = some active →
    run.active[other]? = some holder → active.stage.holdsLock = true →
    holder.stage.holdsLock = true → index = other
  fits : ∀ (index : Nat) (active : Active), run.active[index]? = some active →
    Fits run.database.tables credits active.request active.stage
  accepted : ∀ credit ∈ credits, credit.judgement.verdict = .accepted
  /-- Credit is asked for the first judgement that accepts. -/
  first : ∀ credit ∈ credits,
    (run.database.tables.firstAccepted? credit.aim.1 credit.aim.2).map (·.id) = some credit.id
  distinct : (credits.map Credit.aim).Nodup
  /-- Credit for a solved problem has been asked for, or is about to be. -/
  owed : ∀ user problem, (run.database.tables.firstAccepted? user problem).isSome →
    (user, problem) ∈ credits.map Credit.aim ∨
      ∃ (index : Nat) (active : Active) (judgement : NewJudgement) (id : Id),
        run.active[index]? = some active ∧ active.stage.owes? = some (judgement, id) ∧
        aim judgement = (user, problem)
  counts : ∀ user, run.database.tables.countOf user = (granted credits user).length

variable {tables before after : Tables} {credits : List Credit} {request : Request} {stage : Stage}

/-- What is known of a submission is known after an operation that solves and counts nothing. -/
theorem Fits.frame (fits : Fits before credits request stage) (frame : before.Frame after) :
    Fits after credits request stage := by
  cases stage with
  | findUser => trivial
  | ended answer => trivial
  | record judgement result solved =>
    refine ⟨frame.users _ fits.1, ?_⟩
    rw [Tables.priorAccepted_eq_isSome, frame.firsts, ← Tables.priorAccepted_eq_isSome]
    exact fits.2
  | count judgement result id =>
    refine ⟨frame.users _ fits.1, fits.2.1, ?_, fits.2.2.2⟩
    rw [frame.firsts]
    exact fits.2.2.1
  | _ => exact frame.users _ fits

/-- What is known of a submission without the lock is only that its user is there. -/
theorem Fits.of_free (fits : Fits before credits request stage) (free : stage.holdsLock = false)
    (users : ∀ user, before.userExists user = true → after.userExists user = true)
    (others : List Credit) : Fits after others request stage := by
  cases stage with
  | findUser => trivial
  | ended answer => trivial
  | findPrior judgement result => cases free
  | record judgement result solved => cases free
  | count judgement result id => cases free
  | _ => exact users _ fits

namespace Accounts

variable {run : Run} {index : Nat} {active : Active} {next : Stage}

/-- Nothing has been asked for at the start. -/
theorem start : Accounts {} [] where
  numbered := ⟨List.nodup_nil, fun _ mem => absurd mem List.not_mem_nil⟩
  alone := fun _ _ _ _ here => by simp only [List.getElem?_nil, reduceCtorEq] at here
  fits := fun _ _ here => by simp only [List.getElem?_nil, reduceCtorEq] at here
  accepted := fun _ mem => absurd mem List.not_mem_nil
  first := fun _ mem => absurd mem List.not_mem_nil
  distinct := List.nodup_nil
  owed := fun _ _ solved => by cases solved
  counts := fun _ => rfl

/-- A submission that comes knows nothing yet. -/
theorem come (accounts : Accounts run credits) (request : Request) :
    Accounts { run with active := run.active ++ [{ request }] } credits where
  numbered := accounts.numbered
  alone := by
    intro index other active holder here there holds held
    rcases getElem?_come here with here | ⟨-, rfl⟩
    · rcases getElem?_come there with there | ⟨-, rfl⟩
      · exact accounts.alone index other active holder here there holds held
      · cases held
    · cases holds
  fits := by
    intro index active here
    rcases getElem?_come here with here | ⟨-, rfl⟩
    · exact accounts.fits index active here
    · trivial
  accepted := accounts.accepted
  first := accounts.first
  distinct := accounts.distinct
  owed := by
    intro user problem solved
    rcases accounts.owed user problem solved with credited | ⟨index, active, _, _, here, owes, same⟩
    · exact .inl credited
    · refine .inr ⟨index, active, _, _, ?_, owes, same⟩
      rw [List.getElem?_append_left (List.getElem?_eq_some_iff.mp here).1]
      exact here
  counts := accounts.counts

/-- What solves nothing and counts nothing leaves the accounts as they are. -/
theorem frame (accounts : Accounts run credits) (frame : run.database.tables.Frame after) :
    Accounts { run with database := { run.database with tables := after } } credits where
  numbered := frame.numbered accounts.numbered
  alone := accounts.alone
  fits := fun index active here => (accounts.fits index active here).frame frame
  accepted := accounts.accepted
  first := by
    intro credit mem
    rw [frame.firsts]
    exact accounts.first credit mem
  distinct := accounts.distinct
  owed := by
    intro user problem solved
    rw [frame.firsts] at solved
    exact accounts.owed user problem solved
  counts := by
    intro user
    rw [frame.counts]
    exact accounts.counts user

/-- A step takes the lock only while it is free. -/
theorem alone_step (accounts : Accounts run credits) (here : run.active[index]? = some active)
    (keeps : next.holdsLock = true → active.stage.holdsLock = true ∨ run.isLocked = false) :
    ∀ (first second : Nat) (holder other : Active),
      (run.active.set index { active with stage := next })[first]? = some holder →
      (run.active.set index { active with stage := next })[second]? = some other →
      holder.stage.holdsLock = true → other.stage.holdsLock = true → first = second := by
  -- whoever held the lock beside the submission that has moved would have held it beside itself
  have stranger {other : Nat} {holder : Active} (there : run.active[other]? = some holder)
      (holds : next.holdsLock = true) (held : holder.stage.holdsLock = true) : index = other := by
    rcases keeps holds with holds | free
    · exact accounts.alone index other active holder here there holds held
    · exact absurd (List.any_eq_true.mpr ⟨holder, List.mem_of_getElem? there, held⟩)
        (Bool.eq_false_iff.mp free)
  intro first second holder other here_ there holds held
  rcases getElem?_step here_ with ⟨rfl, rfl⟩ | ⟨ne, here_⟩
  · rcases getElem?_step there with ⟨rfl, rfl⟩ | ⟨ne, there⟩
    · rfl
    · exact stranger there holds held
  · rcases getElem?_step there with ⟨rfl, rfl⟩ | ⟨-, there⟩
    · exact (stranger here_ held holds).symm
    · exact accounts.alone first second holder other here_ there holds held

/-- Where a submission has made a step, what is owed to the others is still owed. -/
theorem owed_step (accounts : Accounts run credits) (here : run.active[index]? = some active)
    {user problem : Id} (solved : (run.database.tables.firstAccepted? user problem).isSome)
    (moved : Active) :
    (user, problem) ∈ credits.map Credit.aim ∨
      (∃ judgement id, active.stage.owes? = some (judgement, id) ∧
        aim judgement = (user, problem)) ∨
      ∃ (other : Nat) (holder : Active) (judgement : NewJudgement) (id : Id),
        (run.active.set index moved)[other]? = some holder ∧
        holder.stage.owes? = some (judgement, id) ∧ aim judgement = (user, problem) := by
  rcases accounts.owed user problem solved with
    credited | ⟨other, holder, judgement, id, there, owes, same⟩
  · exact .inl credited
  · by_cases moves : index = other
    · subst moves
      rw [here] at there
      cases there
      exact .inr (.inl ⟨judgement, id, owes, same⟩)
    · refine .inr (.inr ⟨other, holder, judgement, id, ?_, owes, same⟩)
      rw [List.getElem?_set_ne moves, there]

/-- A step that asks for no credit and leaves the store as it is. -/
theorem quiet (accounts : Accounts run credits) (here : run.active[index]? = some active)
    (idle : active.stage.owes? = none)
    (keeps : next.holdsLock = true → active.stage.holdsLock = true ∨ run.isLocked = false)
    (fits : Fits run.database.tables credits active.request next) :
    Accounts { run with active := run.active.set index { active with stage := next } } credits where
  numbered := accounts.numbered
  alone := accounts.alone_step here keeps
  fits := by
    intro other holder there
    rcases getElem?_step there with ⟨rfl, rfl⟩ | ⟨-, there⟩
    · exact fits
    · exact accounts.fits other holder there
  accepted := accounts.accepted
  first := accounts.first
  distinct := accounts.distinct
  owed := by
    intro user problem solved
    rcases accounts.owed_step here solved { active with stage := next } with
      credited | ⟨_, _, owes, -⟩ | still
    · exact .inl credited
    · rw [idle] at owes
      cases owes
    · exact .inr still
  counts := accounts.counts

/-- The first judgement that accepts is kept, and its credit is owed. -/
theorem firstJudged (accounts : Accounts run credits) {judgement : NewJudgement} {result : JobResult}
    (here : run.active[index]? = some ⟨request, .record judgement result false⟩)
    (accepted : judgement.verdict = .accepted) :
    Accounts {
      database :=
        { run.database with tables := run.database.tables.withJudgement judgement }
      active := run.active.set index
        ⟨request, .count judgement result (run.database.tables.lastJudgement + 1)⟩ } credits := by
  obtain ⟨known, unsolved⟩ := accounts.fits index _ here
  have first := Tables.firstAccepted?_of_first accepted unsolved.symm
  have none_ : run.database.tables.firstAccepted? judgement.user judgement.problem = none := by
    rw [Tables.priorAccepted_eq_isSome] at unsolved
    exact Option.isNone_iff_eq_none.mp (Option.isSome_eq_false_iff.mp unsolved.symm)
  let asking : Active :=
    ⟨request, .count judgement result (run.database.tables.lastJudgement + 1)⟩
  -- no credit has been asked for a problem that was not solved
  have fresh : ∀ credit ∈ credits, credit.aim ≠ aim judgement := by
    intro credit mem same
    have asked := accounts.first credit mem
    rw [same, aim, none_] at asked
    cases asked
  exact {
    numbered := accounts.numbered.withJudgement judgement
    alone := accounts.alone_step here fun _ => .inl rfl
    fits := by
      intro other holder there
      rcases getElem?_step there with ⟨rfl, rfl⟩ | ⟨ne, there⟩
      · exact ⟨known, accepted, by rw [first]; rfl, fresh⟩
      · -- the lock is held here, so it is not held there
        have free : holder.stage.holdsLock = false := Bool.eq_false_iff.mpr fun holds =>
          ne (accounts.alone index other _ holder here there rfl holds)
        refine (accounts.fits other holder there).of_free free ?_ credits
        exact fun _ => id
    accepted := accounts.accepted
    first := by
      intro credit mem
      have other : (judgement.user, judgement.problem) ≠ (credit.aim.1, credit.aim.2) :=
        (fresh credit mem).symm
      rw [Tables.firstAccepted?_of_other other]
      exact accounts.first credit mem
    distinct := accounts.distinct
    owed := by
      intro user problem solved
      by_cases same : aim judgement = (user, problem)
      · have there := List.getElem?_set_self (a := asking) (List.getElem?_eq_some_iff.mp here).1
        exact .inr ⟨index, asking, judgement, _, there, rfl, same⟩
      · rw [Tables.firstAccepted?_of_other same] at solved
        rcases accounts.owed_step here solved _ with credited | ⟨_, _, owes, -⟩ | still
        · exact .inl credited
        · cases owes
        · exact .inr still
    counts := accounts.counts }

/-- Credit is asked for, and the count of the user goes up or, when the call fails, does not. -/
theorem credited (accounts : Accounts run credits) {judgement : NewJudgement} {result : JobResult}
    {number : Id} (here : run.active[index]? = some ⟨request, .count judgement result number⟩)
    (answer : Except SubmitError Outcome) (made : Bool)
    (numbered : run.database.tables.Numbered → after.Numbered)
    (users : ∀ user, run.database.tables.userExists user = true → after.userExists user = true)
    (firsts : ∀ user problem,
      after.firstAccepted? user problem = run.database.tables.firstAccepted? user problem)
    (counts : ∀ user, after.countOf user =
      run.database.tables.countOf user + if made && judgement.user == user then 1 else 0) :
    Accounts {
      database := { run.database with tables := after }
      active := run.active.set index ⟨request, .ended answer⟩ }
      (credits ++ [⟨judgement, number, made⟩]) := by
  obtain ⟨known, accepted, first, fresh⟩ := accounts.fits index _ here
  exact {
    numbered := numbered accounts.numbered
    alone := accounts.alone_step here nofun
    fits := by
      intro other holder there
      rcases getElem?_step there with ⟨rfl, rfl⟩ | ⟨ne, there⟩
      · trivial
      · have free : holder.stage.holdsLock = false := Bool.eq_false_iff.mpr fun holds =>
          ne (accounts.alone index other _ holder here there rfl holds)
        exact (accounts.fits other holder there).of_free free users _
    accepted := by
      intro credit mem
      rcases List.mem_append.mp mem with mem | mem
      · exact accounts.accepted credit mem
      · obtain rfl := List.mem_singleton.mp mem
        exact accepted
    first := by
      intro credit mem
      rw [firsts]
      rcases List.mem_append.mp mem with mem | mem
      · exact accounts.first credit mem
      · obtain rfl := List.mem_singleton.mp mem
        exact first
    distinct := by
      rw [List.map_append, List.map_singleton]
      refine (List.perm_append_singleton _ _).nodup_iff.mpr (List.nodup_cons.mpr ⟨?_, accounts.distinct⟩)
      intro mem
      obtain ⟨credit, mem, same⟩ := List.mem_map.mp mem
      exact fresh credit mem same
    owed := by
      intro user problem solved
      rw [firsts] at solved
      rw [List.map_append, List.mem_append]
      rcases accounts.owed_step here solved _ with credited | ⟨_, _, owes, same⟩ | still
      · exact .inl (.inl credited)
      · cases owes
        exact .inl (.inr (List.mem_singleton.mpr same.symm))
      · exact .inr still
    counts := by
      intro user
      rw [counts, accounts.counts, length_granted_append]
      rfl }

/-- **Every step of a submission keeps the accounts**, with the credit that it asks for. -/
theorem step (accounts : Accounts run credits) {fault : Option Fault}
    {judged : Except Fault JobResult} {database : Database}
    (here : run.active[index]? = some active)
    (free : active.stage.takesLock = true → run.isLocked = false)
    (step : active.stage.step active.request fault judged run.database = (next, database))
    (moves : Moves active.request fault judged run.database active.stage next database) :
    Accounts { database, active := run.active.set index { active with stage := next } }
      (credits ++ (run.credit? (.step index fault judged)).toList) := by
  obtain ⟨request, stage⟩ := active
  have fits := accounts.fits index _ here
  -- most steps ask for no credit
  have quiet {next : Stage} {after : Tables} (idle : stage.owes? = none)
      (keeps : next.holdsLock = true → stage.holdsLock = true ∨ run.isLocked = false)
      (fits : Fits run.database.tables credits request next)
      (frame : run.database.tables.Frame after) :
      Accounts
        { database := { run.database with tables := after }
          active := run.active.set index ⟨request, next⟩ }
        (credits ++ (run.credit? (.step index fault judged)).toList) := by
    rw [credit?_of_idle here idle, Option.toList_none, List.append_nil]
    exact (accounts.quiet here idle keeps fits).frame frame
  cases moves with
  | @failed _ call cause calls why =>
    cases owes : stage.owes? with
    | none => exact quiet owes nofun trivial (.refl _)
    | some pair =>
      cases stage with
      | count judgement result number =>
        rw [credit?_of_owes here rfl step]
        exact accounts.credited here _ false id (fun _ => id) (fun _ _ => rfl)
          fun _ => (Int.add_zero _).symm
      | _ => cases owes
  | foundUser made known => exact quiet rfl nofun known (.refl _)
  | noUser made unknown => exact quiet rfl nofun trivial (.refl _)
  | foundProblem made known parsed => exact quiet rfl nofun fits (.refl _)
  | noLanguage made known strange => exact quiet rfl nofun trivial (.refl _)
  | noProblem made unknown => exact quiet rfl nofun trivial (.refl _)
  | kept made saved => exact quiet rfl nofun fits (Tables.frame_saveSubmission saved)
  | readCases made => exact quiet rfl nofun fits (.refl _)
  | readLimits made limited fits_ => exact quiet rfl nofun fits (.refl _)
  | undelivered came => exact quiet rfl nofun trivial (.refl _)
  | delivered came => exact quiet rfl nofun fits (.refl _)
  | locked => exact quiet rfl (fun _ => .inr (free rfl)) fits (.refl _)
  | foundPrior made => exact quiet rfl (fun _ => .inl rfl) ⟨fits, rfl⟩ (.refl _)
  | first made saved accepted =>
    obtain ⟨rfl, rfl⟩ := Tables.saveJudgement_ok saved
    rw [credit?_of_idle here rfl, Option.toList_none, List.append_nil]
    exact accounts.firstJudged here accepted
  | recorded made saved later =>
    obtain ⟨rfl, rfl⟩ := Tables.saveJudgement_ok saved
    refine quiet rfl nofun trivial (Tables.frame_withJudgement fun accepted => ?_)
    rw [← fits.2]
    exact later accepted
  | @counted judgement _ _ made =>
    rw [credit?_of_owes here rfl step]
    refine accounts.credited here _ true ?_ ?_ ?_ fun user => ?_
    · exact fun numbered => ⟨numbered.distinct, numbered.bounded⟩
    · exact fun user => (Tables.userExists_incrementSolved ..).trans
    · exact fun _ _ => rfl
    · simp only [Tables.countOf_incrementSolved fits.1, Bool.true_and, beq_iff_eq]
  | still => exact quiet rfl nofun trivial (.refl _)

/-- Whatever happens next keeps the accounts. -/
theorem follow (accounts : Accounts run credits) {event : Event} {after : Run}
    (follows : run.Follows event after) :
    Accounts after (credits ++ (run.credit? event).toList) := by
  cases follows with
  | came => simpa only [Run.credit?, Option.toList_none, List.append_nil] using accounts.come _
  | stepped here free step moves => exact accounts.step here free step moves
  | seeded done =>
    simpa only [Run.credit?, Option.toList_none, List.append_nil] using
      accounts.frame (Tables.frame_seed done)
  | unseeded => simpa only [Run.credit?, Option.toList_none, List.append_nil] using accounts

end Accounts

/-- Wherever a run has come to, the accounts are kept. -/
theorem accounts_of_after? {events : List Event} {run : Run}
    (ran : Run.after? {} events = some run) : Accounts run (Run.credits {} events) := by
  refine Run.after?_induction (motive := fun events run => Accounts run (Run.credits {} events))
    .start (fun ran accounts happened => ?_) ran
  rw [Run.credits_append_event ran happened]
  exact accounts.follow (Run.follows_of_next? happened)

/-! ## The count -/

namespace Accounts

variable {run : Run} {user problem : Id}

/-- A credit is told by whose solution of which problem it is for. -/
theorem credit_unique (accounts : Accounts run credits) {credit other : Credit}
    (mem : credit ∈ credits) (mem_ : other ∈ credits) (same : credit.aim = other.aim) :
    credit = other :=
  List.inj_on_of_nodup_map accounts.distinct mem mem_ same

/-- While the lock is free, credit has been asked for every solved problem. -/
theorem credit_of_solved (accounts : Accounts run credits) (free : run.isLocked = false)
    (solved : problem ∈ run.database.tables.solved user) :
    ∃ credit ∈ credits, credit.aim = (user, problem) := by
  rcases accounts.owed user problem (Tables.mem_solved.mp solved) with
    credited | ⟨index, active, judgement, number, here, owes, -⟩
  · exact List.mem_map.mp credited
  · have holds : active.stage.holdsLock = true := by
      cases stage : active.stage with
      | count judgement result number => rfl
      | _ =>
        rw [stage] at owes
        cases owes
    exact absurd (List.any_eq_true.mpr ⟨active, List.mem_of_getElem? here, holds⟩)
      (Bool.eq_false_iff.mp free)

/-- Credit is asked for solved problems only. -/
theorem solved_of_credit (accounts : Accounts run credits) {credit : Credit} (mem : credit ∈ credits)
    (same : credit.aim = (user, problem)) :
    problem ∈ run.database.tables.solved user ∧
      (run.database.tables.firstAccepted? user problem).map (·.id) = some credit.id := by
  have first := accounts.first credit mem
  rw [same] at first
  refine ⟨Tables.mem_solved.mpr ?_, first⟩
  have some_ := congrArg Option.isSome first
  rwa [Option.isSome_map, Option.isSome_some] at some_

/-- A problem is missed when the credit that was asked for it was not made. -/
theorem mem_missed (accounts : Accounts run credits) {credit : Credit} (mem : credit ∈ credits)
    (same : credit.aim = (user, problem)) :
    problem ∈ missed run.database.tables credits user ↔ credit.made = false := by
  obtain ⟨solved, first⟩ := accounts.solved_of_credit mem same
  rw [missed, Finset.mem_filter]
  constructor
  · rintro ⟨-, other, mem_, lost, first_⟩
    -- the judgement that both credits are for tells whose solution of which problem it is
    have there := accounts.first other mem_
    obtain ⟨row, found, number⟩ := Option.map_eq_some_iff.mp first_
    obtain ⟨row_, found_, number_⟩ := Option.map_eq_some_iff.mp there
    have aims := accounts.numbered.firstAccepted?_inj found found_ (number.trans number_.symm)
    have here : credit.aim = other.aim := by rw [same, aims.1, aims.2]
    rw [accounts.credit_unique mem mem_ here]
    exact lost
  · exact fun lost => ⟨solved, credit, mem, lost, first⟩

/-- While the lock is free, the problems that a user has credit for are those that are solved and not
missed. -/
theorem granted_eq (accounts : Accounts run credits) (free : run.isLocked = false) :
    (granted credits user).toFinset =
      run.database.tables.solved user \ missed run.database.tables credits user := by
  ext problem
  simp only [granted, List.mem_toFinset, List.mem_map, List.mem_filter, Bool.and_eq_true, beq_iff_eq,
    Finset.mem_sdiff]
  constructor
  · rintro ⟨credit, ⟨mem, made, rfl⟩, rfl⟩
    refine ⟨(accounts.solved_of_credit mem rfl).1, fun lost => ?_⟩
    rw [(accounts.mem_missed mem rfl).mp lost] at made
    cases made
  · rintro ⟨solved, kept⟩
    obtain ⟨credit, mem, same⟩ := accounts.credit_of_solved free solved
    rw [accounts.mem_missed mem same, Bool.not_eq_false] at kept
    exact ⟨credit, ⟨mem, kept, by rw [same]⟩, by rw [same]⟩

/-- No two credits of one user are for one problem. -/
theorem granted_nodup (accounts : Accounts run credits) (user : Id) :
    (granted credits user).Nodup := by
  refine List.Nodup.map_on ?_ (accounts.distinct.of_map.filter _)
  intro credit mem other mem_ same
  simp only [List.mem_filter, Bool.and_eq_true, beq_iff_eq] at mem mem_
  exact accounts.credit_unique mem.1 mem_.1 (Prod.ext (mem.2.2.trans mem_.2.2.symm) same)

/-- While the lock is free, a count is the number of solved problems less the missed ones. -/
theorem countOf_eq (accounts : Accounts run credits) (free : run.isLocked = false) (user : Id) :
    run.database.tables.countOf user =
      (run.database.tables.solved user).card -
        (missed run.database.tables credits user).card := by
  have length := List.toFinset_card_of_nodup (accounts.granted_nodup user)
  have within : missed run.database.tables credits user ⊆ run.database.tables.solved user :=
    Finset.filter_subset _ _
  have split := Finset.card_sdiff_add_card_eq_card within
  rw [← accounts.granted_eq free, length] at split
  rw [accounts.counts, ← split, Int.natCast_add]
  exact (Int.add_sub_cancel _ _).symm

end Accounts

/-- **The count of solved problems is exact.** However submissions, seeds and faults are interleaved,
credit is asked for accepted judgements only, and once for a user and a problem; a count is the number
of the user's credits that were made; and while no submission holds the lock, it is the number of
problems with an accepted judgement, less those whose first accepted judgement missed its credit by a
fault. -/
theorem solved_count_exact {events : List Event} {run : Run}
    (ran : Run.after? {} events = some run) :
    (∀ credit ∈ Run.credits {} events, credit.judgement.verdict = .accepted) ∧
    ((Run.credits {} events).map Credit.aim).Nodup ∧
    ∀ user, run.database.tables.userExists user = true →
      run.database.tables.solvedCount user = .ok (granted (Run.credits {} events) user).length ∧
      (run.isLocked = false →
        run.database.tables.solvedCount user = .ok
          ((run.database.tables.solved user).card -
            (missed run.database.tables (Run.credits {} events) user).card) ∧
        ((∀ credit ∈ Run.credits {} events, credit.made = true) →
          run.database.tables.solvedCount user = .ok (run.database.tables.solved user).card)) := by
  have accounts := accounts_of_after? ran
  refine ⟨accounts.accepted, accounts.distinct, fun user known => ?_⟩
  rw [Tables.solvedCount_eq known]
  refine ⟨congrArg Except.ok (accounts.counts user), fun free => ?_⟩
  have exact_ := accounts.countOf_eq free user
  refine ⟨congrArg Except.ok exact_, fun made => congrArg Except.ok ?_⟩
  have nothing : missed run.database.tables (Run.credits {} events) user = ∅ := by
    refine Finset.filter_eq_empty_iff.mpr ?_
    rintro problem - ⟨credit, mem, lost, -⟩
    rw [made credit mem] at lost
    cases lost
  rw [exact_, nothing, Finset.card_empty]
  exact Int.sub_zero _

/-- A submission of a user for a problem. -/
def attempt : Request := ⟨⟨1, 7, "go", "package main"⟩, "2026-01-01 00:00:00"⟩

/-- What a worker answers that accepts. -/
def acceptance : JobResult := ⟨1, .accepted, 1, 1, 0, 0, none⟩

/-- Two submissions for one problem, the second of which waits for the lock while the first loses its
credit to a fault. -/
def lostCredit : List Event :=
  [.seed (fun _ => .ok "") [⟨1, "a"⟩] [⟨7, "b", 1000, 65536, []⟩], .come attempt, .come attempt] ++
    List.replicate 9 (.step 0 none (.ok acceptance)) ++
    List.replicate 6 (.step 1 none (.ok acceptance)) ++
    [.step 0 (some (.other "lost")) (.ok acceptance)] ++
    List.replicate 3 (.step 1 none (.ok acceptance))

/-- Where they come to. -/
def creditLost : Run := (Run.after? {} lostCredit).getD {}

theorem solved_count_exact_lostCredit :
    Run.after? {} lostCredit = some creditLost ∧ creditLost.isLocked = false ∧
      creditLost.database.tables.userExists 1 = true ∧
      (creditLost.database.tables.solved 1).card = 1 ∧
      creditLost.database.tables.solvedCount 1 = .ok 0 ∧
      creditLost.database.tables.solvedCount 1 = .ok
        ((creditLost.database.tables.solved 1).card -
          (missed creditLost.database.tables (Run.credits {} lostCredit) 1).card) :=
  have ran : Run.after? {} lostCredit = some creditLost := by rfl
  have free : creditLost.isLocked = false := by decide
  have known : creditLost.database.tables.userExists 1 = true := by decide
  ⟨ran, free, known, by decide, by decide, (((solved_count_exact ran).2.2 1 known).2 free).1⟩

end CodeJudge.Coordinator
