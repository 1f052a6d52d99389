import LayerLint.Json.Record
import LayerLint.Path
import LayerLint.Tree.Span

/-!
# `Diagnostic` — findings, their text and their order

## Contents
- **Findings.** `Location`, `Severity`, `Diagnostic`.
- **Text.** `Diagnostic.display` on one line, `Diagnostic.headline` for reports.
- **Order.** `Diagnostic.compare`: file by component, line, column, code, message; `Diagnostic.sort`
  is stable, so findings that compare equal keep the order in which they arose.
- **Results.** `LintResult`, the outcome of a run over several units.
- **JSON.** Reading and writing.
-/

namespace LayerLint

/-! ## Findings -/

/-- A place in a source file; offset and length count bytes. -/
structure Location where
  file : String
  line : Nat
  column : Nat
  offset : Nat := 0
  length : Nat := 0
  deriving Repr, DecidableEq, Inhabited

/-- How bad a finding is; every rule reports errors. -/
inductive Severity where
  | error
  deriving Repr, DecidableEq, Inhabited

/-- The name of a severity. -/
def Severity.name : Severity → String
  | error => "error"

/-- A finding. -/
structure Diagnostic where
  /-- Code such as `RA07-001`. -/
  code : String
  /-- Name of the rule. -/
  rule : String
  severity : Severity := .error
  location : Location
  message : String
  deriving Repr, DecidableEq, Inhabited

namespace Diagnostic

/-! ## Text -/

/-- A finding on one line. -/
def display (d : Diagnostic) : String :=
  d.location.file ++ ":" ++ toString d.location.line ++ ":" ++ toString d.location.column ++ ": " ++
    d.severity.name ++ " [" ++ d.code ++ "] " ++ d.message

/-- Code and message. -/
def headline (d : Diagnostic) : String := "[" ++ d.code ++ "] " ++ d.message

/-! ## Order -/

/-- Compares findings by file, line, column, code and message. -/
def compare (a b : Diagnostic) : Ordering :=
  (Path.compare a.location.file b.location.file).then <|
    (Ord.compare a.location.line b.location.line).then <|
      (Ord.compare a.location.column b.location.column).then <|
        (Ord.compare a.code b.code).then (Ord.compare a.message b.message)

/-- `a` may stand before `b`. -/
def le (a b : Diagnostic) : Bool := (compare a b).isLE

/-- Findings in order; those that compare equal stay in the order given. -/
def sort (ds : List Diagnostic) : List Diagnostic := ds.mergeSort le

end Diagnostic

/-! ## Results -/

/-- The outcome of a run. -/
structure LintResult where
  diagnostics : List Diagnostic := []
  /-- Units whose analysis finished. -/
  unitsChecked : Nat := 0
  deriving Repr, DecidableEq

/-- Some finding is an error. -/
def LintResult.hasErrors (r : LintResult) : Bool := r.diagnostics.any (·.severity == .error)

/-! ## JSON -/

/-- Writes a location. -/
def Location.encode (l : Location) : Json.Value :=
  .record [("file", .text l.file), ("line", .nat l.line), ("column", .nat l.column),
    ("offset", .nat l.offset), ("length", .nat l.length)]

/-- Reads a location. -/
def Location.decode (v : Json.Value) : Option Location := do
  match ← Json.fields ["file", "line", "column", "offset", "length"] v with
  | [file, line, column, offset, length] =>
      return {
        file := ← Json.required Json.readText file
        line := ← Json.required Json.readCount line
        column := ← Json.required Json.readCount column
        offset := ← Json.required Json.readCount offset
        length := ← Json.required Json.readCount length }
  | _ => none

/-- Reads a severity. -/
def Severity.decode (v : Json.Value) : Option Severity :=
  (Json.readName 1 v).bind fun s => if s = "error" then some .error else none

/-- Writes a finding. -/
def Diagnostic.encode (d : Diagnostic) : Json.Value :=
  .record [("code", .text d.code), ("rule", .text d.rule), ("severity", .text d.severity.name),
    ("location", d.location.encode), ("message", .text d.message)]

/-- Reads a finding. -/
def Diagnostic.decode (v : Json.Value) : Option Diagnostic := do
  match ← Json.fields ["code", "rule", "severity", "location", "message"] v with
  | [code, rule, severity, location, message] =>
      return {
        code := ← Json.required Json.readText code
        rule := ← Json.required Json.readText rule
        severity := ← Json.required Severity.decode severity
        location := ← Json.required Location.decode location
        message := ← Json.required Json.readText message }
  | _ => none

/-- Writes a result. -/
def LintResult.encode (r : LintResult) : Json.Value :=
  .record [("diagnostics", .array (r.diagnostics.map Diagnostic.encode)),
    ("units_checked", .nat r.unitsChecked)]

end LayerLint
