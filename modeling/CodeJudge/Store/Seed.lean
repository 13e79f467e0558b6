import CodeJudge.Config
import CodeJudge.Store.Table

/-!
# Seeding

Bringing the users and problems of the configuration into the tables, all of them or none. A user or a
problem that is there already is brought up to date: a user keeps what has been solved, a problem
gets the configured cases in place of those it had.
-/

namespace CodeJudge.Store

namespace Tables

/-- Puts in a user. The name must not be taken by another. -/
def seedUser (tables : Tables) (entry : UserEntry) : Except Fault Tables :=
  if tables.users.any fun user => user.name == entry.name && user.id != entry.id then
    .error (.database (.violated (.unique "users.name")))
  else if tables.userExists entry.id then
    .ok { tables with
      users := tables.users.map fun user =>
        if user.id = entry.id then { user with name := entry.name } else user }
  else .ok { tables with users := tables.users ++ [{ id := entry.id, name := entry.name }] }

/-- Puts in a problem without its cases. -/
def seedProblem (tables : Tables) (entry : ProblemEntry) : Tables :=
  let row : ProblemRow :=
    { id := entry.id
      name := entry.name
      timeLimit := entry.timeLimit
      memoryLimit := entry.memoryLimit }
  if tables.problemExists entry.id then
    { tables with
      problems := tables.problems.map fun problem => if problem.id = entry.id then row else problem }
  else { tables with problems := tables.problems ++ [row] }

/-- Takes away the cases of a problem. -/
def dropCases (tables : Tables) (problem : Id) : Tables :=
  { tables with cases := tables.cases.filter (·.problem != problem) }

/-- Adds a case to a problem. -/
def addCase (tables : Tables) (problem : Id) (input expected : String) : Tables :=
  let id := tables.lastCase + 1
  { tables with
    cases := tables.cases ++ [{ id, problem, input, expected }]
    lastCase := id }

/-- What is being done when a case is read. -/
def loading (index : Nat) (problem : Id) : String :=
  "failed to load case " ++ String.ofList (Decimal.digits index) ++ " of problem "
    ++ String.ofList (Decimal.render problem)

/-- Adds the cases of a problem, the first of them having the given index. -/
def seedCases (read : String → Except FileFault String) (problem : Id) (index : Nat)
    (tables : Tables) : List CaseEntry → Except Fault Tables
  | [] => .ok tables
  | entry :: rest =>
    match entry.load read with
    | .error fault => .error (.during (loading index problem) (.file fault))
    | .ok (input, expected) =>
      seedCases read problem (index + 1) (tables.addCase problem input expected) rest

/-- Puts in a problem with its cases. -/
def seedWhole (read : String → Except FileFault String) (tables : Tables) (entry : ProblemEntry) :
    Except Fault Tables :=
  seedCases read entry.id 0 ((tables.seedProblem entry).dropCases entry.id) entry.cases

/-- Puts in all users and then all problems. Files are read as they are needed. -/
def seed (read : String → Except FileFault String) (users : List UserEntry)
    (problems : List ProblemEntry) (tables : Tables) : Except Fault Tables := do
  let tables ← users.foldlM seedUser tables
  problems.foldlM (seedWhole read) tables

end Tables

end CodeJudge.Store
