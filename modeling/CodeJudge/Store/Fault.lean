import CodeJudge.Files.Fault

/-!
# Faults of the pipeline

Why an operation on the store, or something built on one, could not be done. A fault may have been
given a context on its way; what lies below it, and so whether the database is to blame, is never
lost by that.
-/

namespace CodeJudge

/-- A rule of the tables that a statement would have broken. -/
inductive Constraint
  /-- A row refers to one that is not there. -/
  | reference
  /-- A value that has to be unique is taken. The column is named with its table. -/
  | unique (column : String)
  deriving DecidableEq, Repr

/-- The database's own words for a broken rule. -/
def Constraint.message : Constraint → String
  | reference => "FOREIGN KEY constraint failed"
  | unique column => "UNIQUE constraint failed: " ++ column

/-- The number that the database gives to a broken rule. -/
def Constraint.code : Constraint → String
  | reference => "787"
  | unique _ => "2067"

/-- What can go wrong in the database. -/
inductive DatabaseFault
  /-- The database has been closed. -/
  | closed
  /-- A query that needs a row found none. -/
  | noRow
  | violated (constraint : Constraint)
  /-- The file of the database cannot be opened. -/
  | cannotOpen
  /-- The file is there and holds something else. -/
  | notADatabase
  | other (text : String)
  deriving DecidableEq, Repr

namespace DatabaseFault

/-- The words of the database for what went wrong, as a cause of its own. -/
def cause? : DatabaseFault → Option String
  | violated constraint => some ("(code: " ++ constraint.code ++ ") " ++ constraint.message)
  | cannotOpen => some "(code: 14) unable to open database file"
  | notADatabase => some "(code: 26) file is not a database"
  | _ => none

/-- What is said of a fault of the database. -/
def message (fault : DatabaseFault) : String :=
  match fault with
  | closed => "attempted to acquire a connection on a closed pool"
  | noRow => "no rows returned by a query that expected to return at least one row"
  | other text => text
  | violated _ | cannotOpen | notADatabase => "error returned from database: " ++ fault.cause?.getD ""

end DatabaseFault

/-- Why an operation could not be done. -/
inductive Fault
  | database (fault : DatabaseFault)
  | file (fault : FileFault)
  /-- A number does not fit into its place. -/
  | tooLarge
  | other (text : String)
  /-- A fault, and what was being done when it came. -/
  | during (doing : String) (fault : Fault)
  deriving DecidableEq, Repr

namespace Fault

/-- What is said of a fault and of its causes, from the outermost to the innermost. -/
def causes : Fault → List String
  | database fault => fault.message :: fault.cause?.toList
  | file fault => [fault.message]
  | tooLarge => ["number too large to fit in target type"]
  | other text => [text]
  | during doing fault => doing :: fault.causes

/-- What is said of a fault, all causes in one line. -/
def message (fault : Fault) : String := ": ".intercalate fault.causes

/-- The fault of the database that lies below, if there is one. -/
def database? : Fault → Option DatabaseFault
  | database fault => some fault
  | during _ fault => fault.database?
  | _ => none

end Fault

end CodeJudge
