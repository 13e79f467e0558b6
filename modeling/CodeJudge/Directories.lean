import CodeJudge.Files.Path

/-!
# Standard directories

Where data and caches of a user live when the configuration names no place. The two variables of the
environment count only when they hold absolute paths.
-/

namespace CodeJudge

/-- What the environment says about directories. -/
structure Directories where
  home : String
  dataHome : Option String := none
  cacheHome : Option String := none
  deriving DecidableEq, Repr

namespace Directories

/-- The directory of this program below a base directory. -/
def project : String := "oj"

/-- A base directory: the variable if it is absolute, else the standard place below home. -/
def base (directories : Directories) (setting : Option String) (standard : String) : String :=
  match setting with
  | some path => if Path.isAbsolute path then path else Path.join directories.home standard
  | none => Path.join directories.home standard

/-- Where the program keeps its data. -/
def data (directories : Directories) : String :=
  Path.join (directories.base directories.dataHome ".local/share") project

/-- Where the program keeps what it can make again. -/
def cache (directories : Directories) : String :=
  Path.join (directories.base directories.cacheHome ".cache") project

/-- The file of the store, in the data directory. -/
def database (directories : Directories) : String :=
  Path.join directories.data "oj.sqlite3"

/-- The parent of the directories that jobs run in. -/
def workRoot (directories : Directories) : String :=
  Path.join directories.cache "jobs"

end Directories

end CodeJudge
