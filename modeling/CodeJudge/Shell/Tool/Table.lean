import CodeJudge.Shell.Tool.Edit
import CodeJudge.Shell.Tool.Expression
import CodeJudge.Shell.Tool.Files
import CodeJudge.Shell.Tool.Lines
import CodeJudge.Shell.Tool.Small

/-!
# The tools by name

Which tool a name stands for.
-/

namespace CodeJudge.Shell

open Process (Action)

namespace Tools

/-- The tools by name. -/
def table : List (String × (Start → Action Nat)) :=
  [("true", fun _ => pure 0),
    ("false", fun _ => pure 1),
    ("echo", fun start => do put 1 (Format.echoPlain false true start.arguments); return 0),
    ("printf", printf),
    ("cat", cat),
    ("head", head),
    ("tail", tail),
    ("sort", sort),
    ("uniq", uniq),
    ("wc", wc),
    ("grep", grep),
    ("sed", sed),
    ("tr", tr),
    ("cut", cut),
    ("tee", tee),
    ("seq", seq),
    ("dd", dd),
    ("rev", fun start => do
      let (texts, status) ← contentsOf start plainly [] 0 (orInput start.arguments)
      put 1 ((texts.flatMap fun (_, text) => linesKept text).flatMap fun line =>
        let body := line.takeWhile (· != '\n')
        Octets.ofText (String.ofList (Octets.toText body).toList.reverse) ++ line.drop body.length)
      return status),
    ("tac", fun start => do
      let (texts, status) ← contentsOf start plainly [] 0 (orInput start.arguments)
      put 1 (texts.flatMap fun (_, text) => (linesKept text).reverse).flatten
      return status),
    ("yes", yes),
    ("rm", rm),
    ("mkdir", mkdir),
    ("rmdir", rmdir),
    ("touch", touch),
    ("chmod", chmod),
    ("cp", fun start => transfer start false),
    ("mv", fun start => transfer start true),
    ("ln", ln),
    ("ls", ls),
    ("pwd", fun start => do put 1 (Octets.ofText (Path.ofSegments start.here) ++ ['\n']); return 0),
    ("test", fun start => test start start.arguments),
    ("[", bracket),
    ("sleep", sleep),
    ("kill", kill),
    ("basename", basename),
    ("dirname", dirname),
    ("expr", expr)]

/-- The tool of a name. -/
def tool? (name : String) : Option (Start → Action Nat) := table.lookup name

end Tools

end CodeJudge.Shell
