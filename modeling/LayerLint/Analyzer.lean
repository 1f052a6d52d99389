import LayerLint.Catalog
import LayerLint.Config
import LayerLint.Snapshot

/-!
# `Analyzer` — running rules over units

An analyzer holds the rules that are left after switches and selection, a table from node kinds to
positions in the list of rules, the codes that may be reported, and valid settings. It walks a tree
once, hands each node to the rules registered for its kind, and keeps the findings whose code the rule
declares and that are active.

## Contents
- **Building.** `Dispatch`, `Setup`, `Setup.build`: settings are folded and checked, rules without an
  active code are dropped, and the table is made of the rules that are left.
- **One unit.** `Walk`, the stack of ancestors and the findings so far; `Analyzer.visit`,
  `Analyzer.analyzeUnit`; a check that fails makes the unit fail.
- **Many units.** `Sink`, `Analyzer.analyzeInto`, `Analyzer.analyzeAll`: a unit that fails adds
  nothing and is not counted.
-/

namespace LayerLint

/-! ## Building -/

/-- For a kind of node, the positions of the rules dispatched on it, in order. -/
abbrev Dispatch := List (Kind × List Nat)

namespace Dispatch

/-- The positions for a kind. -/
def positionsFor (d : Dispatch) (k : Kind) : List Nat := (d.lookup k).getD []

/-- Appends a position to those of a kind. -/
def register : Dispatch → Kind → Nat → Dispatch
  | [], k, i => [(k, [i])]
  | (j, is) :: rest, k, i => if j = k then (j, is ++ [i]) :: rest else (j, is) :: register rest k i

/-- Registers the rule at a position for each of its kinds. -/
def addRule (d : Dispatch) (r : Rule) (i : Nat) : Dispatch := r.kinds.foldl (register · · i) d

/-- The table of a list of rules. -/
def ofRules (rules : List Rule) : Dispatch := rules.zipIdx.foldl (fun d (r, i) => d.addRule r i) []

end Dispatch

/-- What an analyzer is built from. -/
structure Setup where
  rules : List Rule
  config : Config := {}
  /-- Settings to use in the stead of those of the configuration. -/
  settings : Option Settings := none
  /-- Codes or rule names to restrict the analysis to; none of them restricts nothing. -/
  selection : List String := []

/-- An analyzer. -/
structure Analyzer where
  rules : List Rule
  dispatch : Dispatch
  activeCodes : List String
  settings : Settings

namespace Setup

/-- The descriptor is selected. -/
def selects (s : Setup) (d : Descriptor) : Bool :=
  s.selection.isEmpty || s.selection.any d.isNamedBy

/-- The descriptor is switched on and selected. -/
def activates (s : Setup) (d : Descriptor) : Bool :=
  s.config.isEnabled d.name d.id && s.selects d

/-- The active codes of a rule. -/
def codesOf (s : Setup) (r : Rule) : List String := (r.descriptors.filter s.activates).map (·.id)

/-- The rules that can report something. -/
def activeRules (s : Setup) : List Rule := s.rules.filter fun r => !(s.codesOf r).isEmpty

/-- The settings to use, with folded tokens. -/
def effectiveSettings (s : Setup) : Settings := (s.settings.getD s.config.settings).folded

/-- Builds an analyzer, unless the settings cannot be used. -/
def build (s : Setup) : Except SettingsError Analyzer := do
  let settings := s.effectiveSettings
  settings.validate
  let rules := s.activeRules
  return {
    rules
    dispatch := Dispatch.ofRules rules
    activeCodes := rules.flatMap s.codesOf
    settings }

end Setup

/-! ## One unit -/

namespace Analyzer

/-- The number of rules. -/
def ruleCount (a : Analyzer) : Nat := a.rules.length

/-- The active descriptors, in order of registration. -/
def descriptors (a : Analyzer) : List Descriptor :=
  (a.rules.flatMap (·.descriptors)).filter fun d => a.activeCodes.contains d.id

/-- The findings of the rule at a position that are declared and active. -/
def runRule (a : Analyzer) (c : NodeContext) (i : Nat) : Except Fault (List Diagnostic) :=
  match a.rules[i]? with
  | none => .error .missingRule
  | some r => do
      let found ← r.check c
      return found.filter fun d => r.declares d.code && a.activeCodes.contains d.code

end Analyzer

/-- What a walk carries along. -/
structure Walk where
  /-- The nodes the walk is inside of, outermost first. -/
  ancestors : List Node := []
  /-- Findings in the order in which they arose. -/
  found : List Diagnostic := []

namespace Walk

/-- Goes below a node. -/
def enter (w : Walk) (n : Node) : Walk := { w with ancestors := w.ancestors ++ [n] }

/-- Comes back up from the innermost node. -/
def leave (w : Walk) : Walk := { w with ancestors := w.ancestors.dropLast }

/-- Adds findings. -/
def add (w : Walk) (ds : List Diagnostic) : Walk := { w with found := w.found ++ ds }

end Walk

namespace Analyzer

/-- Runs the rules for the kind of a node on it, in order. -/
def checkNode (a : Analyzer) (u : UnitContext) (w : Walk) (n : Node) : Except Fault Walk :=
  (a.dispatch.positionsFor n.kind).foldlM
    (fun w i => do return w.add (← a.runRule ⟨u, n, w.ancestors⟩ i)) w

mutual

/-- Checks a node and everything below it. -/
def visit (a : Analyzer) (u : UnitContext) (w : Walk) : Node → Except Fault Walk
  | .mk info children => do
      let w ← a.checkNode u w (.mk info children)
      let w ← a.visitAll u (w.enter (.mk info children)) children
      return w.leave

/-- Checks a list of siblings. -/
def visitAll (a : Analyzer) (u : UnitContext) (w : Walk) : List Node → Except Fault Walk
  | [] => return w
  | n :: ns => do a.visitAll u (← a.visit u w n) ns

end

/-- The findings in a unit, in order. -/
def analyzeUnit (a : Analyzer) (unit : CompilationUnit) (model : Model) :
    Except Fault (List Diagnostic) := do
  return Diagnostic.sort (← a.visit ⟨unit, model, a.settings⟩ {} unit.root).found

/-! ## Many units -/

end Analyzer

/-- Collects findings in the order in which they are reported. -/
structure Sink where
  diagnostics : List Diagnostic := []
  deriving Repr, DecidableEq

namespace Sink

/-- The number of findings. -/
def length (s : Sink) : Nat := s.diagnostics.length

/-- Appends the findings of one unit. -/
def report (s : Sink) (ds : List Diagnostic) : Sink := ⟨s.diagnostics ++ ds⟩

/-- The findings in order. -/
def sorted (s : Sink) : List Diagnostic := Diagnostic.sort s.diagnostics

end Sink

namespace Analyzer

/-- Analyses a unit into a sink. If the analysis fails the sink stays as it is and the answer is
false. -/
def analyzeInto (a : Analyzer) (unit : CompilationUnit) (model : Model) (sink : Sink) : Bool × Sink :=
  match a.analyzeUnit unit model with
  | .ok ds => (true, sink.report ds)
  | .error _ => (false, sink)

/-- Analyses units one after the other, counting those that finish. -/
def collect (a : Analyzer) (units : List (CompilationUnit × Model)) : Nat × Sink :=
  units.foldl
    (fun (count, sink) (unit, model) =>
      let (finished, sink) := a.analyzeInto unit model sink
      (if finished then count + 1 else count, sink))
    (0, {})

/-- Analyses many units; once cancelled, no further unit is started. -/
def analyzeAll (a : Analyzer) (units : List (CompilationUnit × Model)) (cancelled : Bool) : LintResult :=
  let (count, sink) := a.collect (if cancelled then [] else units)
  { diagnostics := sink.sorted, unitsChecked := count }

/-- Analyses snapshots. -/
def analyzeSnapshots (a : Analyzer) (snapshots : List Snapshot) : LintResult :=
  a.analyzeAll (snapshots.map fun s => (s.unit, s.symbols.model)) false

end Analyzer

end LayerLint
