import CodeJudge.Store.Seed

/-!
# The database

The tables behind a connection. Once it is closed, every operation fails; the tables are there again
when the database is opened anew, unless its file has been removed.
-/

namespace CodeJudge.Store

/-- The tables, and whether the connection to them is open. -/
structure Database where
  tables : Tables := {}
  isOpen : Bool := true
  deriving DecidableEq, Repr

namespace Database

/-- Asks the tables. -/
def query {α : Type} (database : Database) (ask : Tables → Except Fault α) : Except Fault α :=
  if database.isOpen then ask database.tables else .error (.database .closed)

/-- Changes the tables; a change that fails leaves everything as it was. -/
def change {α : Type} (database : Database) (act : Tables → Except Fault (α × Tables)) :
    Except Fault (α × Database) :=
  if database.isOpen then
    (act database.tables).map fun (answer, tables) => (answer, { database with tables })
  else .error (.database .closed)

/-- Closes the connection. -/
def close (database : Database) : Database := { database with isOpen := false }

/-- Closes the connection, removes the file if asked to, and opens the database again, making a new
file where there is none. -/
def reopen (database : Database) (remove : Bool) : Database :=
  { tables := if remove then {} else database.tables }

end Database

end CodeJudge.Store
