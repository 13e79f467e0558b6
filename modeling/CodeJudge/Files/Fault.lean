/-!
# File faults

What the system reports when a file operation cannot be done.
-/

namespace CodeJudge

/-- Why a file operation failed. -/
inductive FileFault
  | notFound
  | permissionDenied
  | alreadyExists
  | notADirectory
  | isADirectory
  | notEmpty
  /-- An executable file in no known format. -/
  | notExecutable
  /-- A name that holds the character NUL. -/
  | nulInName
  /-- A command with the character NUL in an argument. -/
  | nulInCommand
  /-- A file that was read as text and is not text. -/
  | notText
  deriving DecidableEq, Repr

/-- The system's words for a fault. -/
def FileFault.message : FileFault → String
  | notFound => "No such file or directory (os error 2)"
  | permissionDenied => "Permission denied (os error 13)"
  | alreadyExists => "File exists (os error 17)"
  | notADirectory => "Not a directory (os error 20)"
  | isADirectory => "Is a directory (os error 21)"
  | notEmpty => "Directory not empty (os error 39)"
  | notExecutable => "Exec format error (os error 8)"
  | nulInName => "file name contained an unexpected NUL byte"
  | nulInCommand => "nul byte found in provided data"
  | notText => "stream did not contain valid UTF-8"

end CodeJudge
