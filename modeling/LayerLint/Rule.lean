import LayerLint.Descriptor
import LayerLint.Settings
import LayerLint.Symbols
import LayerLint.Text.Line

/-!
# `Rule` — checks and what they see

A rule is dispatched on nodes of certain kinds. It sees the node, its ancestors and the unit, and
returns findings, or fails.

## Contents
- **Units.** `UnitContext`, byte offsets and locations.
- **Nodes.** `NodeContext` and `NodeContext.enclosingClass`.
- **Rules.** `Rule`, `Rule.declares`.
-/

namespace LayerLint

/-! ## Units -/

/-- The byte offset of a line and column of a text: line 0 is the start, a line beyond the last is the
end, and a column counts bytes from the start of its line, however long the line is. -/
def offsetFor (text : List Char) (line column : UInt64) : Except Fault Nat :=
  if line = 0 then .ok 0
  else
    match Text.lineStart? 0 (Text.lines text) (line.toNat - 1) with
    | some start =>
        let offset := start + (column.toNat - 1)
        if offset < wordBound then .ok offset else .error .offsetOverflow
    | none => .ok (Text.byteLength text)

/-- What a check sees of the unit. -/
structure UnitContext where
  unit : CompilationUnit
  model : Model
  settings : Settings

namespace UnitContext

/-- The source text in lower case. -/
def loweredText (c : UnitContext) : String := Text.lower c.unit.text

/-- The location of a span; its length is zero if the span ends before it starts. -/
def location (c : UnitContext) (s : Span) : Except Fault Location := do
  let start ← offsetFor c.unit.text.toList s.startLine s.startColumn
  let stop ← offsetFor c.unit.text.toList s.endLine s.endColumn
  return {
    file := c.unit.path
    line := s.startLine.toNat
    column := s.startColumn.toNat
    offset := start
    length := stop - start }

end UnitContext

/-! ## Nodes -/

/-- What a check sees: a node below its ancestors, outermost first. -/
structure NodeContext where
  unit : UnitContext
  node : Node
  ancestors : List Node

namespace NodeContext

/-- The host's symbol resolution. -/
def model (c : NodeContext) : Model := c.unit.model

/-- The naming tokens. -/
def vocabulary (c : NodeContext) : Vocabulary := c.unit.settings.vocabulary

/-- The limits. -/
def thresholds (c : NodeContext) : Thresholds := c.unit.settings.thresholds

/-- The node itself if it is a class, else the nearest class around it. -/
def enclosingClass (c : NodeContext) : Option Node :=
  if c.node.kind = .classDecl then some c.node
  else c.ancestors.reverse.find? (·.kind == .classDecl)

/-- Where the identifier of a node stands. -/
def identifierLocation (c : NodeContext) (n : Node) : Except Fault Location :=
  c.unit.location n.identifierSpan

/-- Where a node stands. -/
def nodeLocation (c : NodeContext) (n : Node) : Except Fault Location := c.unit.location n.span

end NodeContext

/-! ## Rules -/

/-- A rule. -/
structure Rule where
  name : String
  description : String := ""
  /-- The kinds of findings it may report. -/
  descriptors : List Descriptor
  /-- The kinds of nodes it is dispatched on, once for each occurrence in the list. -/
  kinds : List Kind
  check : NodeContext → Except Fault (List Diagnostic)

/-- The rule may report findings with this code. -/
def Rule.declares (r : Rule) (code : String) : Bool := r.descriptors.any (·.id == code)

end LayerLint
