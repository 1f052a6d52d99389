import LayerLint.VersionControl
import LayerLint.Text.Blank
import LayerLint.Text.Line

/-!
# `Ignore` — which files and directories a walk passes over

An ignore file lists names. The names in `.ignore` always count for its directory and all below it;
those in `.gitignore`, in the list of the repository and in the user's list count only inside a
repository.

## Contents
- **Patterns.** `IgnorePattern`, read from the lines of an ignore file.
- **Levels.** `IgnoreLevel`: the patterns of one directory.
- **Rules.** `IgnoreRules` for a chain of directories, `IgnoreRules.skips`.
-/

namespace LayerLint

/-! ## Patterns -/

/-- A name not to look at. -/
structure IgnorePattern where
  name : String
  /-- Only directories of this name are meant. -/
  directoryOnly : Bool
  deriving Repr, DecidableEq

namespace IgnorePattern

/-- The pattern on a line, unless the line is blank or a comment; a slash at the end means
directories. -/
def ofLine? (line : List Char) : Option IgnorePattern :=
  match Text.trimEnd line with
  | [] => none
  | '#' :: _ => none
  | text =>
      if text.getLast? = some '/' then some ⟨String.ofList text.dropLast, true⟩
      else some ⟨String.ofList text, false⟩

/-- The mark of byte order, which may open a text. -/
def byteOrderMark : Char := '\uFEFF'

/-- The patterns of an ignore file. -/
def ofText (text : String) : List IgnorePattern :=
  (Text.lines (text.toList.dropWhile (· == byteOrderMark))).filterMap ofLine?

/-- The pattern names an entry. -/
def names (p : IgnorePattern) (name : String) (e : Entry) : Bool :=
  p.name == name && (!p.directoryOnly || e.isDirectory)

/-- The patterns of the file under a name in a directory. -/
def inFile (entries : List (String × Entry)) (name : String) : List IgnorePattern :=
  match entries.lookup name with
  | some (.file content) => ofText content
  | _ => []

end IgnorePattern

/-! ## Levels -/

/-- The patterns of one directory. -/
structure IgnoreLevel where
  always : List IgnorePattern
  /-- Patterns that count only inside a repository. -/
  versioned : List IgnorePattern
  /-- The directory is the top of a repository. -/
  isRepository : Bool
  deriving Repr, DecidableEq

namespace IgnoreLevel

/-- What stands at the top of a repository. -/
def repositoryMarks : List String := [".git", ".jj"]

/-- The level of a directory. -/
def ofEntries (d : Disk) (entries : List (String × Entry)) : IgnoreLevel where
  always := IgnorePattern.inFile entries ".ignore"
  versioned :=
    IgnorePattern.inFile entries ".gitignore" ++
      IgnorePattern.ofText ((VersionControl.excludes? d entries).getD "")
  isRepository := repositoryMarks.any fun name => (entries.lookup name).isSome

/-- The levels up to the top of the innermost repository; outside of repositories there are none. -/
def repository : List IgnoreLevel → List IgnoreLevel
  | [] => []
  | l :: ls =>
      if l.isRepository then [l]
      else if ls.any (·.isRepository) then l :: repository ls
      else []

end IgnoreLevel

/-! ## Rules -/

/-- What a walk passes over at some place. -/
structure IgnoreRules where
  /-- The user's patterns, which count inside any repository. -/
  personal : List IgnorePattern
  /-- The levels of the directories on the way to the place, innermost first. -/
  levels : List IgnoreLevel
  deriving Repr, DecidableEq

namespace IgnoreRules

/-- The rules one directory further down. -/
def enter (r : IgnoreRules) (level : IgnoreLevel) : IgnoreRules :=
  { r with levels := level :: r.levels }

/-- The patterns that count. -/
def patterns (r : IgnoreRules) : List IgnorePattern :=
  r.levels.flatMap (·.always) ++ (IgnoreLevel.repository r.levels).flatMap (·.versioned) ++
    if r.levels.any (·.isRepository) then r.personal else []

/-- Some pattern names the entry. -/
def skips (r : IgnoreRules) (name : String) (e : Entry) : Bool := r.patterns.any (·.names name e)

end IgnoreRules

end LayerLint
