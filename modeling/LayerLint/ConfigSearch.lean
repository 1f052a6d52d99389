import LayerLint.ConfigFile
import LayerLint.Disk

/-!
# `ConfigSearch` — which configuration file counts

A file named on the command line is used whatever else there is. Otherwise the directory of the first
path is searched, then each directory above it, then the directory for all projects; without any file
the defaults hold.

## Contents
- **Candidates.** `ConfigSearch`, `ConfigSearch.candidates` in order of precedence.
- **Loading.** `ConfigSearch.load`, with the error of a file that cannot be used.
-/

namespace LayerLint

/-! ## Candidates -/

/-- Where to look for a configuration. -/
structure ConfigSearch where
  disk : Disk
  /-- The file named on the command line. -/
  named : Option String := none
  /-- The path whose directory is searched first. -/
  first : String := "."
  /-- The directory of the configuration for all projects. -/
  globalDirectory : Option String := none

namespace ConfigSearch

/-- The name of a project's configuration file. -/
def fileName : String := "mvc-lint.toml"

/-- The names looked for in each directory of a project, in order. -/
def fileNames : List String := [fileName, "." ++ fileName]

/-- The directory of the first path, as an absolute path if it exists. -/
def start (s : ConfigSearch) : String :=
  match s.disk.resolve s.first with
  | .error _ => s.first
  | .ok place => Place.path (if s.disk.isFile s.first then place.dropLast else place)

/-- The files that may hold the configuration, those that come first winning. -/
def candidates (s : ConfigSearch) : List String :=
  (Path.ancestors s.start).flatMap (fun dir => fileNames.map (Path.join dir)) ++
    (s.globalDirectory.map (Path.join · "config.toml")).toList

/-- The file to use. -/
def file? (s : ConfigSearch) : Option String :=
  s.named <|> s.candidates.find? s.disk.isFile

end ConfigSearch

/-! ## Loading -/

/-- Why a configuration file cannot be used. -/
inductive ConfigFileError where
  | unreadable (path : String) (reason : DiskError)
  | malformed (path : String)
  deriving Repr, DecidableEq

/-- The configuration that counts. -/
def ConfigSearch.load (s : ConfigSearch) : Except ConfigFileError Config :=
  match s.file? with
  | none => .ok {}
  | some path =>
      match s.disk.read path with
      | .error reason => .error (.unreadable path reason)
      | .ok text =>
          match Config.parse text with
          | some config => .ok config
          | none => .error (.malformed path)

end LayerLint
