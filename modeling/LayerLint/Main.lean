import LayerLint.Outcome

/-!
# `Main` — the command line

Reads the part of the disk that a command can see, runs the command on it, and does what the outcome
says.

## Contents
- **Reading.** `readEntry`, `observe`.
- **Writing.** `perform`.
- **The program.** `main`.
-/

namespace LayerLint

/-! ## Reading -/

/-- The place a path leads to from a place, going by its text alone. -/
def Place.follow (place : Place) (path : String) : Place :=
  (Path.pieces path).foldl
    (fun p piece =>
      if piece = "" ∨ piece = "." then p else if piece = ".." then p.dropLast else p ++ [piece])
    (if Path.isAbsolute path then [] else place)

/-- The file or directory at a path, if there is one; a file that is no text reads as empty. -/
partial def readEntry (path : String) : IO (Option Entry) := do
  let here := (← IO.currentDir) / path
  if ← here.isDir then
    let mut entries := []
    for child in ← here.readDir do
      if let some e ← readEntry (Path.join path child.fileName) then
        entries := entries ++ [(child.fileName, e)]
    return some (.directory entries)
  else if ← here.pathExists then
    let content ← try IO.FS.readFile here catch _ => pure ""
    return some (.file content)
  else
    return none

/-- The files that matter in the directories around a path. -/
def landmarks : List String := ConfigSearch.fileNames ++ [".ignore", ".gitignore"]

/-- Adds what stands at a path to a tree. -/
def addEntry (current : Place) (root : Entry) (path : String) : IO Entry := do
  match ← readEntry path with
  | some e => return e.put (current.follow path) root
  | none => return root

/-- Adds the name of what stands at a path, as an empty directory unless it is there already. -/
def addName (current : Place) (root : Entry) (path : String) : IO Entry := do
  let place := current.follow path
  if (root.find? place).isNone && (← ((← IO.currentDir) / path).pathExists) then
    return Entry.put (.directory []) place root
  else
    return root

/-- Adds what version control keeps in a directory: the `.git` directory with its list, or the `.git`
file with what it leads to. -/
def addRepository (current : Place) (root : Entry) (dir : String) : IO Entry := do
  let path := Path.join dir ".git"
  let place := current.follow path
  if ← ((← IO.currentDir) / path).isDir then
    let root ← addName current root path
    addEntry current root (Path.join path VersionControl.listPath)
  else
    let mut root ← addEntry current root path
    if let some (.file link) := root.find? place then
      if let some shared := VersionControl.sharedFile? link then
        root ← addEntry current root shared
        if let .ok text := (Disk.mk root current).read shared then
          for list in (VersionControl.linkedList? link text).toList do
            root ← addEntry current root list
    return root

/-- Adds what version control keeps for a user. -/
def addUser (current : Place) (root : Entry) (home : String) : IO Entry := do
  let mut root := root
  for file in VersionControl.settingsFiles home do
    root ← addEntry current root file
  addEntry current root (VersionControl.userListPath ⟨root, current⟩ home)

/-- Adds the landmarks of a directory and of the directories above it. -/
def addLandmarks (current : Place) (root : Entry) (place : Place) : IO Entry := do
  let mut root := root
  for n in List.range (place.length + 1) do
    let dir := Place.path (place.take n)
    for name in landmarks do
      root ← addEntry current root (Path.join dir name)
    root ← addRepository current root dir
    for mark in IgnoreLevel.repositoryMarks do
      root ← addName current root (Path.join dir mark)
  return root

/-- The part of the disk that a command can see. -/
def observe (invocation : Option Invocation) (globalDirectory home : Option String) : IO Disk := do
  let current := Place.follow [] (toString (← IO.currentDir))
  let mut root := Entry.put (.directory []) current (.directory [])
  match invocation with
  | some (.run (.check paths _ _) config) =>
      for path in paths do
        root ← addEntry current root path
      for path in paths do
        root ← addLandmarks current root (current.follow path)
      for dir in home.toList do
        root ← addUser current root dir
      for path in config.toList ++ (globalDirectory.map (Path.join · "config.toml")).toList do
        root ← addEntry current root path
  | _ => root ← addLandmarks current root current
  return ⟨root, current⟩

/-! ## Writing -/

/-- Does what an outcome says. -/
def perform (o : Outcome) : IO UInt32 := do
  let errors ← IO.getStderr
  for w in o.warnings do
    errors.putStrLn ("WARN " ++ w)
  if let some (name, content) := o.saved then
    IO.FS.writeFile name content
  let out ← IO.getStdout
  out.putStr o.output
  out.flush
  if let some f := o.failure then
    errors.putStrLn ("Error: " ++ f.message)
    if let some cause := f.cause? then
      errors.putStrLn ("\nCaused by:\n    " ++ cause)
  return UInt32.ofNat o.exitCode

end LayerLint

open LayerLint in
/-- Runs a command line. -/
def main (args : List String) : IO UInt32 := do
  let surroundings : Surroundings :=
    { disk := ⟨.directory [], []⟩
      configDirectory := ← IO.getEnv "MVC_LINT_CONFIG_DIR"
      home := ← IO.getEnv "HOME" }
  let disk ← observe (Invocation.parse args) surroundings.globalDirectory surroundings.home
  let outcome := { surroundings with disk }.run args
  if outcome = Outcome.misused then
    (← IO.getStderr).putStrLn "Usage: mvc-lint [OPTIONS] <check|list-rules|init>"
  perform outcome
