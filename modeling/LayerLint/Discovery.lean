import LayerLint.Ignore

/-!
# `Discovery` — the snapshot files of a command

A path that leads to a file stands for that file. A path that leads to a directory stands for the
snapshot files in it and below it, hidden ones too, except those that are ignored. A lone hyphen that
names no file stands for the standard input, where there are no files.

## Contents
- **Walking.** `Discovery.filesIn`: the snapshot files of a directory, as paths that start with the
  path given for the directory.
- **Discovery.** `Disk.discover`: the files for all paths in order, one for each spelling.
-/

namespace LayerLint

/-! ## Walking -/

namespace Discovery

/-- The file is taken for a snapshot: its name ends in `.json` after something else. -/
def isSnapshotName (name : String) : Bool := Text.endsWith name ".json" && name != ".json"

mutual

/-- The snapshot files at a path: the file itself, or those of a directory. -/
def filesAt (d : Disk) (rules : IgnoreRules) (path name : String) : Entry → List String
  | .file _ => if isSnapshotName name then [path] else []
  | .directory es => filesIn d (rules.enter (.ofEntries d es)) path es

/-- The snapshot files among the entries of a directory and below them. -/
def filesIn (d : Disk) (rules : IgnoreRules) (path : String) : List (String × Entry) → List String
  | [] => []
  | (name, e) :: rest =>
      (if rules.skips name e then [] else filesAt d rules (Path.join path name) name e) ++
        filesIn d rules path rest

end

end Discovery

/-! ## Discovery -/

/-- Why a path cannot be walked. -/
inductive WalkProblem where
  | unreachable (reason : DiskError)
  /-- A repository above the path is linked by a file where a directory stands. -/
  | brokenLink (file : String)
  deriving Repr, DecidableEq

/-- A path that could not be walked. -/
structure WalkError where
  path : String
  problem : WalkProblem
  deriving Repr, DecidableEq

/-- The wording of a problem. -/
def WalkError.cause (e : WalkError) : String :=
  match e.problem with
  | .unreachable reason =>
      e.path ++ ": IO error for operation on " ++ e.path ++ ": " ++ reason.message
  | .brokenLink file => file ++ ": " ++ DiskError.isADirectory.message

namespace Disk

/-- The path that stands for the standard input. -/
def standardInput : String := "-"

/-- What the directories above a place list, outermost first. -/
def listingsAbove (d : Disk) (place : Place) : List (List (String × Entry)) :=
  ((List.range place.length).filterMap fun n => d.root.find? (place.take n)).map Entry.entries

/-- The snapshot files a path stands for, before they are put in order; `personal` are the user's
patterns. -/
def filesFor (d : Disk) (personal : List IgnorePattern) (path : String) :
    Except WalkError (List String) :=
  match d.resolve path with
  | .error reason =>
      if path = standardInput then .ok [] else .error ⟨path, .unreachable reason⟩
  | .ok place =>
      match d.root.find? place with
      | none => .error ⟨path, .unreachable .missing⟩
      | some (.file _) => .ok [path]
      | some (.directory es) =>
          if path = standardInput then .ok []
          else
            let above := d.listingsAbove place
            match above.findSome? (VersionControl.brokenLink? d) with
            | some file => .error ⟨path, .brokenLink file⟩
            | none =>
                let levels := (above.map (IgnoreLevel.ofEntries d)).reverse
                .ok (Discovery.filesIn d ⟨personal, .ofEntries d es :: levels⟩ path es)

end Disk

/-- Paths in order, those that compare equal in the order given. -/
def Path.sort (paths : List String) : List String := paths.mergeSort fun a b => (compare a b).isLE

/-- Drops each path that has the components of the one before it. -/
def Path.dedup : List String → List String
  | [] => []
  | p :: ps => p :: go p ps
where
  /-- The paths after `last`. -/
  go (last : String) : List String → List String
    | [] => []
    | p :: ps => if components p = components last then go last ps else p :: go p ps

/-- **The snapshot files of a command.** Files in order, each spelling once; the first path that
cannot be walked is an error. The user's directory may hold a list of names to ignore. -/
def Disk.discover (d : Disk) (home : Option String) (paths : List String) :
    Except WalkError (List String) := do
  let personal := IgnorePattern.ofText ((home.bind (VersionControl.userList? d)).getD "")
  return Path.dedup (Path.sort (← paths.mapM (d.filesFor personal)).flatten)

end LayerLint
