import LayerLint.Report.Excerpt
import LayerLint.Snapshot

/-!
# `Report` — the output of a run

## Contents
- **Formats.** `Format` and its names.
- **Texts.** `Report.text`, `Report.compact`, each a list of lines, and `Report.pretty`, the excerpts.
- **Output.** `Output` and `Format.render`: what is printed for a result. Text and excerpts end with a
  summary, the compact form and JSON do not.
-/

namespace LayerLint

/-! ## Formats -/

/-- How findings are printed. -/
inductive Format where
  | text
  | json
  | compact
  | pretty
  deriving Repr, DecidableEq, Inhabited

namespace Format

/-- The name of a format on the command line. -/
def name : Format → String
  | text => "text"
  | json => "json"
  | compact => "compact"
  | pretty => "pretty"

/-- All formats. -/
def all : List Format := [text, json, compact, pretty]

/-- The format of a name. -/
def ofName? (s : String) : Option Format := all.find? (·.name == s)

/-- Names tell formats apart. -/
@[simp] theorem ofName?_name (f : Format) : ofName? f.name = some f := by
  cases f <;> decide

end Format

/-! ## Texts -/

namespace Report

/-- A text in red. -/
def red (s : String) : String := "\x1b[31m" ++ s ++ "\x1b[0m"

/-- A text in green. -/
def green (s : String) : String := "\x1b[32m" ++ s ++ "\x1b[0m"

/-- How many findings there are in how many units. -/
def summary (r : LintResult) : String :=
  let s := "Found " ++ toString r.diagnostics.length ++ " error(s) in " ++ toString r.unitsChecked ++
    " unit(s)"
  if r.hasErrors then red s else green s

/-- A finding on two lines and a blank one. -/
def entry (d : Diagnostic) : List String :=
  [d.code ++ " " ++ d.rule ++ " at " ++ d.location.file ++ ":" ++ toString d.location.line ++ ":" ++
      toString d.location.column,
   "  " ++ red d.severity.name ++ ": " ++ d.message,
   ""]

/-- The findings with a summary. -/
def text (r : LintResult) : List String := r.diagnostics.flatMap entry ++ [summary r]

/-- One line for each finding. -/
def compact (r : LintResult) : List String := r.diagnostics.map Diagnostic.display

/-- The text of a file; of several units with one file the last one counts, and a unit without text
has none. -/
def sourceOf? (units : List CompilationUnit) (file : String) : Option String :=
  match units.reverse.find? fun u => Path.components u.path == Path.components file with
  | some u => if u.text = "" then none else some u.text
  | none => none

/-- The excerpts one after the other, each with a blank line, up to one that breaks off. -/
def excerpts : List Excerpt → Excerpt
  | [] => { lines := [] }
  | e :: rest =>
      match e.brokenOff with
      | some _ => e
      | none => (excerpts rest).below (e.lines ++ [""])

/-- The findings with excerpts of the units. -/
def pretty (units : List CompilationUnit) (r : LintResult) : Excerpt :=
  excerpts (r.diagnostics.map fun d => Excerpt.render (sourceOf? units d.location.file) d)

end Report

/-! ## Output -/

/-- Lines, each with its line break. -/
def Report.unlines (lines : List String) : String := String.join (lines.map (· ++ "\n"))

/-- What is printed. -/
structure Output where
  text : String
  /-- Printing came to its end. -/
  isComplete : Bool := true
  deriving Repr, DecidableEq

/-- Whole lines. -/
def Output.ofLines (lines : List String) : Output := { text := Report.unlines lines }

/-- Excerpts with a summary after them, unless they break off. -/
def Output.ofExcerpts (e : Excerpt) (summary : String) : Output :=
  match e.brokenOff with
  | none => .ofLines (e.lines ++ [summary])
  | some start => { text := Report.unlines e.lines ++ start, isComplete := false }

/-- What is printed for the result of analysing units. -/
def Format.render (f : Format) (units : List CompilationUnit) (r : LintResult) : Output :=
  match f with
  | text => .ofLines (Report.text r)
  | json => .ofLines [r.encode.pretty]
  | compact => .ofLines (Report.compact r)
  | pretty => .ofExcerpts (Report.pretty units r) (Report.summary r)

end LayerLint
