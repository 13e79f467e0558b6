import CodeJudge.Files.Fault
import CodeJudge.Files.Path
import CodeJudge.Text.Utf8

/-!
# File trees

Directories and files under one root. A name leads to a file's content through a number, so that a
file that has lost its name can still be written through a handle opened before.

Paths are resolved one segment at a time from a directory. A segment is looked up only in a
directory that is there; so the fault of a path is the fault of its first bad segment.
-/

namespace CodeJudge

/-- What a name stands for. -/
inductive Node
  | directory
  /-- A file, by the number of its content. -/
  | file (number : Nat)
  deriving DecidableEq, Repr

/-- The content of a file, and whether it may be run. -/
structure FileContent where
  bytes : ByteArray
  executable : Bool := false

/-- Directories and files under one root. -/
structure FileTree where
  /-- What stands at each path, the path given by its segments. -/
  nodes : List (List String × Node) := [([], .directory)]
  contents : List (Nat × FileContent) := []
  /-- The number of the next content. -/
  next : Nat := 0

namespace FileTree

/-- What stands at a path. -/
def node? (tree : FileTree) (path : List String) : Option Node :=
  tree.nodes.lookup path

/-- A content by its number. -/
def content? (tree : FileTree) (number : Nat) : Option FileContent :=
  tree.contents.lookup number

/-- Replaces a content. -/
def setContent (tree : FileTree) (number : Nat) (content : FileContent) : FileTree :=
  { tree with contents := (number, content) :: tree.contents.filter (·.1 != number) }

/-- Goes from a directory through segments, giving the path reached and whether a directory is asked
for by a trailing slash or dot. The last segment need not be there. -/
def walk (tree : FileTree) (here : List String) (asDirectory : Bool) :
    List String → Except FileFault (List String × Bool)
  | [] => .ok (here, asDirectory)
  | segment :: rest =>
    match tree.node? here with
    | none => .error .notFound
    | some (.file _) => .error .notADirectory
    | some .directory =>
      if segment = "" || segment = "." then tree.walk here true rest
      else if segment = ".." then tree.walk here.dropLast true rest
      else tree.walk (here ++ [segment]) false rest

/-- Resolves a path from a directory. A last name that is not there is left to the caller, unless the
path asks for a directory behind it. -/
def resolve (tree : FileTree) (here : List String) (path : String) :
    Except FileFault (List String × Bool) :=
  if path.toList.isEmpty then .error .notFound
  else if path.toList.contains '\x00' then .error .nulInName
  else
    match Path.segments path with
    | "" :: rest => tree.walk [] true rest
    | segments => tree.walk here true segments

/-- Finds what stands at a path. -/
def find (tree : FileTree) (here : List String) (path : String) :
    Except FileFault (List String × Node) := do
  let (target, asDirectory) ← tree.resolve here path
  match tree.node? target with
  | none => throw .notFound
  | some (.file number) => if asDirectory then throw .notADirectory else return (target, .file number)
  | some .directory => return (target, .directory)

/-- The content of the file at a path. -/
def read (tree : FileTree) (here : List String) (path : String) : Except FileFault FileContent := do
  match ← tree.find here path with
  | (_, .directory) => throw .isADirectory
  | (_, .file number) =>
    match tree.content? number with
    | some content => return content
    | none => throw .notFound

/-- The text of the file at a path. -/
def readText (tree : FileTree) (here : List String) (path : String) : Except FileFault String := do
  let content ← tree.read here path
  match Utf8.strict? content.bytes.toList with
  | some text => return text
  | none => throw .notText

/-- Opens the file at a path for writing, making an empty one if there is none and emptying it if
asked to. Gives the number of its content. -/
def openForWriting (tree : FileTree) (here : List String) (path : String) (empty : Bool) :
    Except FileFault (FileTree × Nat) := do
  let (target, asDirectory) ← tree.resolve here path
  match tree.node? target with
  | some .directory => throw .isADirectory
  | some (.file number) =>
    if asDirectory then throw .notADirectory
    let content := (tree.content? number).getD ⟨.empty, false⟩
    return (if empty then tree.setContent number { content with bytes := .empty } else tree, number)
  | none =>
    if asDirectory then throw .isADirectory
    match tree.node? target.dropLast with
    | some .directory =>
      let number := tree.next
      return ({ tree with
        nodes := tree.nodes ++ [(target, .file number)]
        contents := (number, ⟨.empty, false⟩) :: tree.contents
        next := number + 1 }, number)
    | some (.file _) => throw .notADirectory
    | none => throw .notFound

/-- Writes a whole file. -/
def write (tree : FileTree) (here : List String) (path : String) (bytes : ByteArray) :
    Except FileFault FileTree := do
  let (opened, number) ← tree.openForWriting here path true
  let content := (opened.content? number).getD ⟨.empty, false⟩
  return opened.setContent number { content with bytes }

/-- Makes a directory. -/
def makeDirectory (tree : FileTree) (here : List String) (path : String) :
    Except FileFault FileTree := do
  let (target, _) ← tree.resolve here path
  match tree.node? target with
  | some _ => throw .alreadyExists
  | none =>
    match tree.node? target.dropLast with
    | some .directory => return { tree with nodes := tree.nodes ++ [(target, .directory)] }
    | some (.file _) => throw .notADirectory
    | none => throw .notFound

/-- Makes a directory and those above it, as far as they are not there. -/
def makeDirectories (tree : FileTree) (here : List String) :
    List String → Except FileFault FileTree
  | [] => .ok tree
  | segment :: rest =>
    if segment = "" || segment = "." then tree.makeDirectories here rest
    else
      let target := here ++ [segment]
      match tree.node? target with
      | some .directory => tree.makeDirectories target rest
      | some (.file _) => .error (if rest.isEmpty then .alreadyExists else .notADirectory)
      | none =>
        makeDirectories { tree with nodes := tree.nodes ++ [(target, .directory)] } target rest

/-- Gives a content one more name; a file that had the name loses it. -/
def link (tree : FileTree) (here : List String) (path : String) (number : Nat) :
    Except FileFault FileTree := do
  let (target, asDirectory) ← tree.resolve here path
  let named (tree : FileTree) : FileTree := { tree with nodes := tree.nodes ++ [(target, .file number)] }
  match tree.node? target with
  | some .directory => throw .isADirectory
  | some (.file _) => return named { tree with nodes := tree.nodes.filter (·.1 != target) }
  | none =>
    if asDirectory then throw .isADirectory
    match tree.node? target.dropLast with
    | some .directory => return named tree
    | some (.file _) => throw .notADirectory
    | none => throw .notFound

/-- Takes away the name of a file. -/
def unlink (tree : FileTree) (here : List String) (path : String) : Except FileFault FileTree := do
  match ← tree.find here path with
  | (_, .directory) => throw .isADirectory
  | (target, .file _) => return { tree with nodes := tree.nodes.filter (·.1 != target) }

/-- Takes away everything at and below a path. -/
def removeAll (tree : FileTree) (target : List String) : FileTree :=
  { tree with nodes := tree.nodes.filter fun entry => !target.isPrefixOf entry.1 }

/-- The names in a directory, in the order of their bytes. -/
def list (tree : FileTree) (directory : List String) : List String :=
  let names := tree.nodes.filterMap fun entry =>
    if entry.1.length = directory.length + 1 && directory.isPrefixOf entry.1 then entry.1.getLast?
    else none
  names.mergeSort fun a b => decide (a ≤ b)

/-- The paths of everything below a directory, in the order of their characters. -/
def below (tree : FileTree) (directory : List String) : List String :=
  let paths := tree.nodes.filterMap fun entry =>
    if directory.isPrefixOf entry.1 && entry.1 != directory then some (Path.ofSegments entry.1)
    else none
  paths.mergeSort fun a b => decide (a ≤ b)

end FileTree

end CodeJudge
