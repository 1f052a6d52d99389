import LayerLint.Analyzer
import LayerLint.Command
import LayerLint.ConfigSearch
import LayerLint.Discovery
import LayerLint.Text.Visible

/-!
# `Outcome` — what a command line does

The result of a command is a function of the line, of the disk, and of two directories from the
surroundings. It says what to print, what to warn of, with which code to end, and which file to write.

## Contents
- **Surroundings and outcomes.** `Surroundings`, `Failure` with its wording, `Outcome`.
- **Checking.** `Check.selection`, `Check.load?`, `Surroundings.check`.
- **The other commands.** `ruleList`, `Surroundings.init`.
- **Running.** `Surroundings.run`.
-/

namespace LayerLint

/-! ## Surroundings and outcomes -/

/-- What a command finds. -/
structure Surroundings where
  disk : Disk
  /-- The directory set for the configuration of all projects. -/
  configDirectory : Option String := none
  /-- The user's directory. -/
  home : Option String := none

/-- The directory of the configuration for all projects. -/
def Surroundings.globalDirectory (s : Surroundings) : Option String :=
  s.configDirectory <|> s.home.map (Path.join · ".mvc-lint")

/-- Why a command ends early. -/
inductive Failure where
  | config (e : ConfigFileError)
  | settings (e : SettingsError)
  | walk (e : WalkError)
  | configExists (path : String)
  | unwritable (path : String) (reason : DiskError)
  deriving Repr, DecidableEq

namespace Failure

/-- What went wrong. -/
def message : Failure → String
  | config (.unreadable path _) | config (.malformed path) => "Failed to load config: " ++ path
  | settings _ => "Failed to build analyzer"
  | walk e => "Failed to walk " ++ e.path
  | configExists path =>
      "Configuration file already exists at " ++ path ++ ". Use --force to overwrite."
  | unwritable path _ => "Failed to write " ++ path

/-- Why it went wrong. -/
def cause? : Failure → Option String
  | config (.unreadable path reason) =>
      some ("Failed to read config file " ++ path ++ ": " ++ reason.message)
  | config (.malformed _) => some "Failed to parse config"
  | settings e => some ("Configuration error: " ++ e.message)
  | walk e => some e.cause
  | configExists _ => none
  | unwritable _ reason => some reason.message

end Failure

/-- What a command does. -/
structure Outcome where
  exitCode : Nat := 0
  output : String := ""
  warnings : List String := []
  failure : Option Failure := none
  /-- The name and the content of a file to write in the current directory. -/
  saved : Option (String × String) := none
  deriving Repr, DecidableEq

namespace Outcome

/-- The line was not understood. -/
def misused : Outcome := { exitCode := 2 }

/-- The code of a command that stops while it prints. -/
def abortCode : Nat := 101

/-- The command ended early. -/
def failed (f : Failure) (warnings : List String := []) : Outcome :=
  { exitCode := 1, warnings, failure := some f }

end Outcome

/-! ## Checking -/

namespace Check

/-- The codes and names in a list with commas; blanks around them and empty ones are dropped. -/
def selection (rules : String) : List String :=
  ((Text.pieces (· == ',') rules.toList).map fun p => String.ofList (Text.trimChars p)).filter
    (· != "")

/-- A warning about something with a name. -/
def warning (start name : String) : String := start ++ Text.visible name

/-- Warnings of entries that name no rule. -/
def unknownRules (selected : List String) : List String :=
  (selected.filter fun q => (Catalog.find q).isEmpty).map (warning "Unknown rule: ")

/-- The snapshot in a file. -/
def load? (d : Disk) (path : String) : Option Snapshot :=
  match d.read path with
  | .ok text => Snapshot.parse text
  | .error _ => none

/-- Warnings of files that hold no snapshot. -/
def skippedFiles (d : Disk) (files : List String) : List String :=
  (files.filter fun path => (load? d path).isNone).map (warning "Skipping ")

/-- Warnings of units whose analysis fails. -/
def skippedUnits (a : Analyzer) (snapshots : List Snapshot) : List String :=
  (snapshots.filter fun s => !(a.analyzeUnit s.unit s.symbols.model).isOk).map fun s =>
    warning "Analysis of " s.unit.path ++ " panicked; unit skipped"

end Check

/-- Analyses the snapshots under some paths. -/
def Surroundings.check (s : Surroundings) (paths : List String) (format : Format)
    (rules config : Option String) : Outcome :=
  let search : ConfigSearch :=
    ⟨s.disk, config, paths.head?.getD ".", s.globalDirectory⟩
  match search.load with
  | .error e => .failed (.config e)
  | .ok config =>
      let selected := (rules.map Check.selection).getD []
      let unknown := Check.unknownRules selected
      let setup : Setup := { rules := Catalog.rules, config, selection := selected }
      match setup.build with
      | .error e => .failed (.settings e) unknown
      | .ok analyzer =>
          match s.disk.discover s.home paths with
          | .error e => .failed (.walk e) unknown
          | .ok files =>
              let snapshots := files.filterMap (Check.load? s.disk)
              let result := analyzer.analyzeSnapshots snapshots
              let output := format.render (snapshots.map (·.unit)) result
              { exitCode := if !output.isComplete then Outcome.abortCode else if result.hasErrors then 1 else 0
                output := output.text
                warnings :=
                  unknown ++ Check.skippedFiles s.disk files ++ Check.skippedUnits analyzer snapshots }

/-! ## The other commands -/

/-- A text with blanks after it up to a number of characters. -/
def padEnd (width : Nat) (s : String) : String :=
  s ++ String.ofList (List.replicate (width - s.length) ' ')

/-- The table of codes and rules. -/
def ruleList : List String :=
  let row (code name title : String) := padEnd 10 code ++ " " ++ padEnd 32 name ++ " " ++ title
  ["Available rules:",
   "",
   row "Code" "Name" "Title",
   String.ofList (List.replicate 96 '-')] ++
    Catalog.descriptors.map (fun d => row d.id d.name d.title) ++
    ["",
     "Rule families:"] ++
    Catalog.rules.map (fun r => "  " ++ padEnd 32 r.name ++ " " ++ r.description) ++
    ["",
     "Use --rules to filter specific rules, e.g.:",
     "  mvc-lint check --rules controller-brain,god-class",
     "  mvc-lint check --rules RA07-001,RA15-002"]

/-- Writes a configuration file to start from; one that is there is kept unless `force`. -/
def Surroundings.init (s : Surroundings) (force : Bool) : Outcome :=
  let name := ConfigSearch.fileName
  if s.disk.contains name && !force then .failed (.configExists name)
  else
    match s.disk.save name Config.template with
    | .error reason => .failed (.unwritable name reason)
    | .ok _ =>
        { saved := some (name, Config.template)
          output := Report.unlines
            ["Created " ++ name,
             "",
             "Next steps:",
             "  1. Edit " ++ name ++ " to match your naming conventions",
             "  2. Run: mvc-lint check <snapshot-dir>"] }

/-! ## Running -/

/-- **What a command line does.** -/
def Surroundings.run (s : Surroundings) (args : List String) : Outcome :=
  match Invocation.parse args with
  | none => .misused
  | some .version => { output := "mvc-lint 0.1.0\n" }
  | some (.run (.check paths format rules) config) => s.check paths format rules config
  | some (.run .listRules _) => { output := Report.unlines ruleList }
  | some (.run (.init force) _) => s.init force

/-- The disk after a command. -/
def Disk.after (d : Disk) (o : Outcome) : Disk :=
  match o.saved with
  | none => d
  | some (name, content) =>
      match d.save name content with
      | .ok d => d
      | .error _ => d

end LayerLint
