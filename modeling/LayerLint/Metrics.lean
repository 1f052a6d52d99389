import LayerLint.Tree.Node

/-!
# `Metrics` — counts over declarations

## Contents
- **Actions.** `actionMethods`, `controlFlowNodes`, `controlFlowComplexity`, `actionMetrics`.
- **Interfaces and bodies.** `interfaceMethodCount`, `methodBodies`.
-/

namespace LayerLint.Metrics

/-! ## Actions -/

/-- Public methods that override nothing and are not named like their class. -/
def actionMethods (cls : Node) : List Node :=
  cls.members.filter fun m =>
    m.kind == .methodDecl && m.hasModifier .isPublic && !m.hasModifier .isOverride &&
      m.name != cls.name

/-- The number of control-flow nodes below a node. -/
def controlFlowNodes (n : Node) : Nat := n.descendants.countP (·.kind.isControlFlow)

/-- Control-flow nodes summed over the actions of a class. -/
def controlFlowComplexity (cls : Node) : Nat := total ((actionMethods cls).map controlFlowNodes)

/-- The size of a controller's public surface. -/
structure ActionMetrics where
  methods : Nat
  /-- Parameters summed over the actions. -/
  parameters : Nat
  /-- Parameters of the first constructor. -/
  dependencies : Nat
  deriving Repr, DecidableEq

/-- Measures a class. -/
def actionMetrics (cls : Node) : ActionMetrics where
  methods := (actionMethods cls).length
  parameters := total ((actionMethods cls).map (·.parameters.length))
  dependencies :=
    match cls.members.find? (·.kind == .constructorDecl) with
    | some c => c.parameters.length
    | none => 0

/-! ## Interfaces and bodies -/

/-- The number of methods an interface declares. -/
def interfaceMethodCount (interface : Node) : Nat :=
  interface.members.countP (·.kind == .methodDecl)

/-- The members that may have a body, with the body they have. -/
def methodBodies (cls : Node) : List (Node × Node) :=
  (cls.members.filter (·.kind.isMethodLike)).filterMap fun m => m.body.map (m, ·)

end LayerLint.Metrics
