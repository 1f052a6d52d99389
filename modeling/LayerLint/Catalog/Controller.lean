import LayerLint.Layer
import LayerLint.Metrics
import LayerLint.Rule
import LayerLint.Scan

/-!
# `Catalog.Controller` — what controllers must not hold or become

Controllers coordinate requests and delegate to services.

## Contents
- **Content.** `controllerView` (RA05): the first HTML tag, for classes named like a controller;
  `controllerModel` (RA06): SQL and data-access references, for units with a controller's path.
- **Size.** `controllerBrain` (RA07): control flow in actions; `promiscuousController` (RA08): actions,
  their parameters and constructor dependencies.
-/

namespace LayerLint.Catalog

/-! ## Content -/

/-- HTML markup in a controller. -/
def htmlInController : Descriptor where
  id := "RA05-001"
  name := "controller-view"
  title := "HTML tags are not allowed in the controller"
  message := "Controller '\x7b0\x7d' contains the HTML tag '\x7b1\x7d'"

/-- Keeps markup out of controllers. -/
def controllerView : Rule where
  name := "controller-view"
  description := "Forbids HTML tags in controllers"
  descriptors := [htmlInController]
  kinds := [.classDecl]
  check c := do
    let cls := c.node
    if !Layer.controller.holds c.vocabulary cls.name then return []
    match Scan.firstToken? Scan.htmlTags c.unit.loweredText with
    | some tag => return [htmlInController.diagnostic (← c.identifierLocation cls) [cls.name, tag]]
    | none => return []

/-- SQL text in a controller. -/
def sqlInController : Descriptor where
  id := "RA06-001"
  name := "controller-model"
  title := "SQL commands are not allowed in the controller"
  message := "Controller '\x7b0\x7d' contains the SQL command '\x7b1\x7d'"

/-- Data-access reference in a controller. -/
def dataAccessInController : Descriptor where
  id := "RA06-002"
  name := "controller-model"
  title := "Data-access library references are not allowed in the controller"
  message := "Controller '\x7b0\x7d' references a data-access library"

/-- Keeps SQL and data-access references out of controllers. -/
def controllerModel : Rule where
  name := "controller-model"
  description := "Forbids SQL commands and data-access library references in controllers"
  descriptors := [sqlInController, dataAccessInController]
  kinds := [.classDecl]
  check c := do
    let cls := c.node
    if !Layer.controller.holds c.vocabulary c.unit.unit.path then return []
    let location ← c.identifierLocation cls
    let commands := (Scan.firstToken? Scan.sqlTokens c.unit.loweredText).toList
    let references := cls.members.any (Scan.referencesDataAccess c.model)
    return commands.map (sqlInController.diagnostic location [cls.name, ·]) ++
      (if references then [dataAccessInController.diagnostic location [cls.name]] else [])

/-! ## Size -/

/-- Too much control flow in the actions of a controller. -/
def controlFlowTooLarge : Descriptor where
  id := "RA07-001"
  name := "controller-brain"
  title := "Controller control flow is too large"
  message := "Controller '\x7b0\x7d' has \x7b1\x7d control-flow statements in its actions (limit \x7b2\x7d)"

/-- Limits control flow in the actions of a controller. -/
def controllerBrain : Rule where
  name := "controller-brain"
  description := "Limits control-flow statements across a controller's actions"
  descriptors := [controlFlowTooLarge]
  kinds := [.classDecl]
  check c := do
    let cls := c.node
    if !Layer.controller.holds c.vocabulary cls.name then return []
    let complexity := Metrics.controlFlowComplexity cls
    let limit := c.thresholds.maxControlFlow
    if complexity ≤ limit then return []
    return [controlFlowTooLarge.diagnostic (← c.identifierLocation cls)
      [cls.name, toString complexity, toString limit]]

/-- Too many actions, action parameters or dependencies. -/
def tooManyActions : Descriptor where
  id := "RA08-001"
  name := "promiscuous-controller"
  title := "Controller offers too many actions and routes"
  message := "Controller '\x7b0\x7d' has \x7b1\x7d actions, \x7b2\x7d action parameters and \x7b3\x7d constructor dependencies"

/-- Limits the public surface of controllers. -/
def promiscuousController : Rule where
  name := "promiscuous-controller"
  description := "Limits actions, action parameters and constructor dependencies of controllers"
  descriptors := [tooManyActions]
  kinds := [.classDecl]
  check c := do
    let cls := c.node
    if !Layer.controller.holds c.vocabulary cls.name then return []
    let m := Metrics.actionMetrics cls
    let t := c.thresholds
    if m.methods ≤ t.maxControllerMethods && m.parameters ≤ t.maxControllerParameters &&
        m.dependencies ≤ t.maxConstructorDependencies then
      return []
    return [tooManyActions.diagnostic (← c.identifierLocation cls)
      [cls.name, toString m.methods, toString m.parameters, toString m.dependencies]]

end LayerLint.Catalog
