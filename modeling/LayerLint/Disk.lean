import LayerLint.Path

/-!
# `Disk` — files, directories and paths into them

A disk is the directory at the root of a tree of files and directories, without links. A place is
named by the names on the way to it from the root. A path is a text; it is followed piece by piece
from the root or from the current place, so every `..` and every trailing slash needs a directory
where it stands.

## Contents
- **Entries.** `Entry`, `Entry.find?` by place.
- **Paths.** `Disk.enter` for one piece, `Disk.resolve` for a whole path, and the errors of both.
- **Files.** `Disk.read`, `Disk.save`.
-/

namespace LayerLint

/-! ## Entries -/

/-- What stands at a place of a disk. -/
inductive Entry where
  | file (content : String)
  | directory (entries : List (String × Entry))
  deriving Inhabited

/-- The names on the way from the root. -/
abbrev Place := List String

/-- A place as an absolute path. -/
def Place.path (place : Place) : String := "/" ++ "/".intercalate place

namespace Entry

/-- What a directory lists; a file lists nothing. -/
def entries : Entry → List (String × Entry)
  | file _ => []
  | directory es => es

/-- The entry is a directory. -/
def isDirectory : Entry → Bool
  | file _ => false
  | directory _ => true

/-- The entry under a name. -/
def child? (e : Entry) (name : String) : Option Entry := e.entries.lookup name

/-- The entry at a place below this one. -/
def find? (e : Entry) : Place → Option Entry
  | [] => some e
  | name :: names => (e.child? name).bind (·.find? names)

/-- Replaces the entry under a name, or adds one at the end. -/
def setIn (name : String) (new : Entry) : List (String × Entry) → List (String × Entry)
  | [] => [(name, new)]
  | (n, e) :: rest => if n = name then (n, new) :: rest else (n, e) :: setIn name new rest

/-- Puts an entry at a place, with directories on the way to it; a file on the way gives way. -/
def put (new : Entry) : Place → Entry → Entry
  | [], _ => new
  | name :: names, e =>
      .directory (setIn name (put new names ((e.child? name).getD (.directory []))) e.entries)

end Entry

/-! ## Paths -/

/-- Why a path cannot be used. -/
inductive DiskError where
  | missing
  | notADirectory
  | isADirectory
  | nameTooLong
  deriving Repr, DecidableEq

/-- The wording of an error. -/
def DiskError.message : DiskError → String
  | missing => "No such file or directory (os error 2)"
  | notADirectory => "Not a directory (os error 20)"
  | isADirectory => "Is a directory (os error 21)"
  | nameTooLong => "File name too long (os error 36)"

/-- The bytes a name may have. -/
def longestName : Nat := 255

/-- The bytes a path may have. -/
def longestPath : Nat := 4095

/-- A tree seen from a current place. -/
structure Disk where
  root : Entry
  current : Place := []

namespace Disk

/-- Follows one piece of a path from a place. -/
def enter (d : Disk) (place : Place) (piece : String) : Except DiskError Place :=
  match d.root.find? place with
  | none => .error .missing
  | some (.file _) => .error .notADirectory
  | some (.directory es) =>
      if piece = "" ∨ piece = "." then .ok place
      else if piece = ".." then .ok place.dropLast
      else if longestName < piece.utf8ByteSize then .error .nameTooLong
      else if (es.lookup piece).isSome then .ok (place ++ [piece])
      else .error .missing

/-- The place a path leads to. -/
def resolve (d : Disk) (path : String) : Except DiskError Place :=
  if path = "" then .error .missing
  else if longestPath < path.utf8ByteSize then .error .nameTooLong
  else (Path.pieces path).foldlM d.enter (if Path.isAbsolute path then [] else d.current)

/-- What stands where a path leads. -/
def lookup (d : Disk) (path : String) : Except DiskError Entry := do
  match d.root.find? (← d.resolve path) with
  | some e => return e
  | none => throw .missing

/-- The path leads to something. -/
def contains (d : Disk) (path : String) : Bool := (d.lookup path).isOk

/-- The path leads to a file. -/
def isFile (d : Disk) (path : String) : Bool :=
  match d.lookup path with
  | .ok (.file _) => true
  | _ => false

/-! ## Files -/

/-- The content of the file a path leads to. -/
def read (d : Disk) (path : String) : Except DiskError String := do
  match ← d.lookup path with
  | .file content => return content
  | .directory _ => throw .isADirectory

/-- Writes a file under a name in the current place. -/
def save (d : Disk) (name content : String) : Except DiskError Disk :=
  match d.root.find? (d.current ++ [name]) with
  | some (.directory _) => .error .isADirectory
  | _ => .ok { d with root := Entry.put (.file content) (d.current ++ [name]) d.root }

end Disk

end LayerLint
