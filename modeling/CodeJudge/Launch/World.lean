import CodeJudge.Directories
import CodeJudge.Files.Tree
import CodeJudge.Store.Database

/-!
# The world that a program starts in

Files, the databases that some of the files hold, and what the environment says about directories.
-/

namespace CodeJudge.Launch

open Store (Tables Database)

/-- The world of a program. -/
structure World where
  files : FileTree
  /-- The directory that paths are seen from. -/
  here : List String := []
  directories : Directories
  /-- The tables of databases, by the number of their file's content. -/
  databases : List (Nat × Tables) := []

namespace World

/-- The text of a file. -/
def readText (world : World) (path : String) : Except FileFault String :=
  world.files.readText world.here path

/-- The bytes of a file. -/
def readBytes (world : World) (path : String) : Except FileFault Bytes :=
  (world.files.read world.here path).map (·.bytes.toList)

/-- Makes a directory and those above it. -/
def makeDirectories (world : World) (path : String) : Except FileFault World := do
  let start := if Path.isAbsolute path then [] else world.here
  return { world with files := ← world.files.makeDirectories start (Path.segments path) }

/-- Takes away a file, if it is there. -/
def removeFile (world : World) (path : String) : World :=
  match world.files.unlink world.here path with
  | .ok files => { world with files }
  | .error _ => world

/-- The tables that an open file holds: a file that is empty holds empty ones. -/
def tablesOf (world : World) (content : Nat) : Except Fault Tables :=
  match world.databases.lookup content with
  | some tables => .ok tables
  | none =>
    match world.files.content? content with
    | some file => if file.bytes.size = 0 then .ok {} else .error (.database .notADatabase)
    | none => .ok {}

/-- Opens the database in a file, making the file if it is not there, and gives the number of its
content. -/
def openDatabase (world : World) (path : String) : Except Fault (Nat × Tables × World) :=
  match world.files.openForWriting world.here path false with
  | .error _ => .error (.database .cannotOpen)
  | .ok (files, content) => do
    let world := { world with files }
    let tables ← world.tablesOf content
    return (content, tables, world)

/-- Keeps the tables of a database. -/
def keep (world : World) (content : Nat) (tables : Tables) : World :=
  { world with databases := (content, tables) :: world.databases.filter (·.1 != content) }

/-- The tables of the database in a file, as they are kept; empty ones if there is none. -/
def database (world : World) (path : String) : Tables :=
  match world.openDatabase path with
  | .ok (_, tables, _) => tables
  | .error _ => {}

end World

end CodeJudge.Launch
