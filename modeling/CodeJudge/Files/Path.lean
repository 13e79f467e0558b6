/-!
# Paths

Path texts, joined and taken apart. A path is absolute when it begins with a slash. Joining to an
absolute path gives that path: whoever joins a name that somebody else chose has no promise that the
result lies below the base.
-/

namespace CodeJudge.Path

/-- Whether a path begins at the root. -/
def isAbsolute (path : String) : Bool :=
  match path.toList with
  | '/' :: _ => true
  | _ => false

/-- The path `name` seen from the directory `base`. -/
def join (base name : String) : String :=
  if isAbsolute name then name
  else if base.toList.isEmpty || base.toList.getLast? = some '/' then base ++ name
  else base ++ "/" ++ name

/-- Cuts a text at every slash; `held` is the segment being read, latest character first. -/
def segmentsFrom (held : List Char) : List Char → List String
  | [] => [String.ofList held.reverse]
  | '/' :: rest => String.ofList held.reverse :: segmentsFrom [] rest
  | c :: rest => segmentsFrom (c :: held) rest

/-- The segments of a path between its slashes. A leading, trailing or double slash shows as an empty
segment. -/
def segments (path : String) : List String := segmentsFrom [] path.toList

/-- The text of an absolute path from its segments. -/
def ofSegments (segments : List String) : String :=
  if segments.isEmpty then "/" else String.join (segments.map ("/" ++ ·))

end CodeJudge.Path
