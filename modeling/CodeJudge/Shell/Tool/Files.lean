import CodeJudge.Shell.Tool

/-!
# Tools on files

Tools that make, remove, copy and name files. Each path is dealt with by itself: one that fails is
complained of, and the others are dealt with all the same.
-/

namespace CodeJudge.Shell

open Process (Action)

namespace Tools

/-- Carries out a change of the files for each path, complaining where it cannot be made. -/
def changing (start : Start) (change : FileTree → String → Except FileFault FileTree)
    (shown : Octets → FileFault → Option String) (status : Nat) : List Octets → Action Nat
  | [] => pure status
  | path :: rest => do
    let files ← Action.look
    match change files path.toText with
    | .ok files =>
      Action.change files
      changing start change shown status rest
    | .error fault =>
      match shown path fault with
      | some message =>
        let status ← complain start message 1
        changing start change shown status rest
      | none => changing start change shown status rest

/-- Removes files. -/
def rm (start : Start) : Action Nat := do
  let (letters, paths) := options [] start.arguments
  let whole := letters.contains 'r' || letters.contains 'R'
  let remove (files : FileTree) (path : String) : Except FileFault FileTree := do
    match ← files.find start.here path with
    | (target, .directory) => if whole then return files.removeAll target else throw .isADirectory
    | _ => files.unlink start.here path
  if paths.isEmpty && !letters.contains 'f' then confuse start "missing operand" 1 else
  changing start remove (fun path fault =>
    if letters.contains 'f' && fault = .notFound then none
    else some ("cannot remove " ++ quoted path ++ ": " ++ words fault)) 0 paths

/-- Makes directories. -/
def mkdir (start : Start) : Action Nat := do
  let (letters, paths) := options [] start.arguments
  let make (files : FileTree) (path : String) : Except FileFault FileTree :=
    if letters.contains 'p' then do
      let (target, _) ← (files.resolve start.here path).toOption.elim
        (.ok (start.here ++ Path.segments path, true)) .ok
      files.makeDirectories [] target
    else files.makeDirectory start.here path
  if paths.isEmpty then confuse start "missing operand" 1 else
  changing start make (fun path fault =>
    some ("cannot create directory " ++ quoted path ++ ": " ++ words fault)) 0 paths

/-- Removes directories that are empty. -/
def rmdir (start : Start) : Action Nat :=
  let remove (files : FileTree) (path : String) : Except FileFault FileTree := do
    match ← files.find start.here path with
    | (target, .directory) =>
      if (files.list target).isEmpty then return files.removeAll target else throw .notEmpty
    | _ => throw .notADirectory
  changing start remove (fun path fault =>
    some ("failed to remove " ++ quoted path ++ ": " ++ words fault)) 0 start.arguments

/-- Makes files that are not there. -/
def touch (start : Start) : Action Nat :=
  let (_, paths) := options [] start.arguments
  let make (files : FileTree) (path : String) : Except FileFault FileTree := do
    match files.find start.here path with
    | .ok _ => return files
    | .error _ => return (← files.openForWriting start.here path false).1
  changing start make (fun path fault =>
    some ("cannot touch " ++ quoted path ++ ": " ++ words fault)) 0 paths

/-- Sets whether files may be run. -/
def chmod (start : Start) : Action Nat := do
  match start.arguments with
  | [] => complain start "missing operand" 1
  | mode :: paths =>
    let executable := mode.contains 'x' && !mode.contains '-'
      || (mode.all Char.isDigit && mode.any fun c => (c.toNat - 48) % 2 = 1)
    let set (files : FileTree) (path : String) : Except FileFault FileTree := do
      match ← files.find start.here path with
      | (_, .file number) =>
        match files.content? number with
        | some content => return files.setContent number { content with executable }
        | none => return files
      | _ => return files
    changing start set (fun path fault =>
      some ("cannot access " ++ quoted path ++ ": " ++ words fault)) 0 paths

/-- The path that a copy of a file to a place has: below the place, if that is a directory. -/
def placeFor (files : FileTree) (here : List String) (source place : String) : String :=
  match files.find here place with
  | .ok (_, .directory) => Path.join place ((Path.segments source).getLast?.getD "")
  | _ => place

/-- Copies a directory to a place, with all below it. -/
def copyDirectory (files : FileTree) (source target : List String) : FileTree :=
  files.nodes.foldl (fun (files : FileTree) (path, node) =>
    if !source.isPrefixOf path then files
    else
      let path := target ++ path.drop source.length
      match node with
      | .directory => (files.makeDirectories [] path).toOption.getD files
      | .file number =>
        match files.content? number with
        | none => files
        | some content =>
          match files.openForWriting [] (Path.ofSegments path) true with
          | .ok (files, number) => files.setContent number content
          | .error _ => files) files

/-- Copies or moves files. -/
def transfer (start : Start) (moving : Bool) : Action Nat := do
  let (letters, paths) := options [] start.arguments
  match paths.reverse with
  | [] => confuse start "missing file operand" 1
  | [only] => confuse start ("missing destination file operand after " ++ quoted only) 1
  | place :: sources =>
    let deep := moving || letters.contains 'r' || letters.contains 'R' || letters.contains 'a'
    let move (files : FileTree) (path : String) : Except FileFault FileTree := do
      let target := placeFor files start.here path place.toText
      match ← files.find start.here path with
      | (source, .directory) =>
        if !deep then throw .isADirectory
        let (target, _) ← files.resolve start.here target
        let files := copyDirectory files source target
        return if moving then files.removeAll source else files
      | (_, .file number) =>
        if moving then
          let files ← files.link start.here target number
          files.unlink start.here path
        else
          let content ← files.read start.here path
          let (files, copy) ← files.openForWriting start.here target true
          return files.setContent copy content
    changing start move (fun path fault =>
      some (if fault = .isADirectory && !deep then
          "-r not specified; omitting directory " ++ quoted path
        else "cannot stat " ++ quoted path ++ ": " ++ words fault)) 0 sources.reverse

/-- Gives files other names. -/
def ln (start : Start) : Action Nat := do
  let (_, paths) := options [] start.arguments
  match paths with
  | [] => confuse start "missing file operand" 1
  | source :: more =>
    let make (files : FileTree) (path : String) : Except FileFault FileTree := do
      let place := more.headD ['.']
      let target := placeFor files start.here path place.toText
      match ← files.find start.here path with
      | (_, .directory) => throw .isADirectory
      | (_, .file number) =>
        if (files.find start.here target).toOption.isSome then throw .alreadyExists
        files.link start.here target number
    changing start make (fun path fault =>
      some (if fault = .alreadyExists then
          "failed to create hard link " ++ quoted (more.headD ['.']) ++ ": " ++ words fault
        else "failed to access " ++ quoted path ++ ": " ++ words fault)) 0 [source]

/-- Names of files. -/
def ls (start : Start) : Action Nat := do
  let (letters, paths) := options [] start.arguments
  let paths := paths.mergeSort Octets.noLater
  let files ← Action.look
  let visible (names : List String) : List String :=
    if letters.contains 'a' then [".", ".."] ++ names
    else if letters.contains 'A' then names
    else names.filter fun name => name.toList.head? != some '.'
  let show_ (names : List String) : Action Unit :=
    put 1 (names.flatMap fun name => Octets.ofText name ++ ['\n'])
  match paths with
  | [] =>
    show_ (visible (files.list start.here))
    return 0
  | _ =>
    let found := paths.map fun path => (path, files.find start.here path.toText)
    let mut status := 0
    for (path, result) in found do
      match result with
      | .error fault =>
        status ← complain start ("cannot access " ++ quoted path ++ ": " ++ words fault) 2
      | .ok _ => pure ()
    for (path, result) in found do
      match result with
      | .ok (_, .file _) => show_ [path.toText]
      | _ => pure ()
    for (path, result) in found do
      match result with
      | .ok (target, .directory) =>
        if paths.length > 1 then put 1 (path ++ [':', '\n'])
        show_ (visible (files.list target))
      | _ => pure ()
    return status

/-- A path without the slashes at its end; one that is nothing but slashes keeps one. -/
def withoutSlashes (path : Octets) : Octets :=
  match path.reverse.dropWhile (· = '/') with
  | [] => path.take 1
  | kept => kept.reverse

/-- The last part of a path, without an ending if one is named. -/
def basename (start : Start) : Action Nat := do
  match start.arguments with
  | [] => confuse start "missing operand" 1
  | path :: more =>
    let path := withoutSlashes path
    let name := if path = ['/'] then path else (path.reverse.takeWhile (· != '/')).reverse
    let ending := more.headD []
    let name := if ending.isSuffixOf name && ending != name then
      name.take (name.length - ending.length) else name
    put 1 (name ++ ['\n'])
    return 0

/-- Paths without their last parts. -/
def dirname (start : Start) : Action Nat := do
  let parent (path : Octets) : Octets :=
    match (withoutSlashes path).reverse.dropWhile (· != '/') with
    | [] => if path.head? = some '/' then ['/'] else ['.']
    | kept => withoutSlashes kept.reverse
  match start.arguments with
  | [] => confuse start "missing operand" 1
  | paths =>
    put 1 (paths.flatMap fun path => parent path ++ ['\n'])
    return 0

end Tools

end CodeJudge.Shell
