import LayerLint.Layer
import LayerLint.Metrics
import LayerLint.Rule

/-!
# `Catalog.Structure` — coupling, direction and size

## Contents
- **Coupling.** `abstractionWithoutDecoupling` (RA13): a property reached through an interface that
  its own class implements.
- **Size.** `ambiguousInterface` (RA14): methods of an interface; `godClass` (RA16): lines of a class.
- **Direction.** `architectureViolation` (RA15): objects of a higher or skipped layer created in a
  class, judged by the path of the unit and the text of the created type.
-/

namespace LayerLint.Catalog

/-! ## Coupling -/

/-- An interface that does not decouple. -/
def interfaceWithoutDecoupling : Descriptor where
  id := "RA13-001"
  name := "abstraction-without-decoupling"
  title := "Class with abstraction without decoupling"
  message := "Class '\x7b0\x7d' uses the interface '\x7b1\x7d' to access the member '\x7b2\x7d' of class '\x7b3\x7d'"

/-- What a member access couples: a property, the class that declares it, and the interface of the
receiver, which the class implements. -/
structure Coupling where
  property : Symbol
  container : TypeInfo
  interface : TypeInfo

/-- The coupling at a member access, if all facts about it are known. -/
def coupling? (model : Model) (access : Node) : Option Coupling := do
  let property ← model.symbol access
  if property.kind ≠ .property then none
  let container ← property.containingType
  if container.kind ≠ .classType then none
  let interface ← model.type (← access.receiver)
  if interface.kind ≠ .interfaceType then none
  if container.implements interface.id then return ⟨property, container, interface⟩ else none

/-- Reports interface references that reach a member of the class behind them. -/
def abstractionWithoutDecoupling : Rule where
  name := "abstraction-without-decoupling"
  description := "Detects interface references used to reach members of the class behind them"
  descriptors := [interfaceWithoutDecoupling]
  kinds := [.memberAccess]
  check c := do
    match coupling? c.model c.node with
    | some k =>
        let accessor :=
          match c.enclosingClass with
          | some cls => cls.name
          | none => k.container.name
        return [interfaceWithoutDecoupling.diagnostic (← c.nodeLocation c.node)
          [accessor, k.interface.name, k.property.name, k.container.name]]
    | none => return []

/-! ## Size -/

/-- An interface with too many methods. -/
def tooManyMethods : Descriptor where
  id := "RA14-001"
  name := "ambiguous-interface"
  title := "Ambiguous interface"
  message := "Interface '\x7b0\x7d' declares \x7b1\x7d methods (limit \x7b2\x7d)"

/-- Limits the methods of an interface. -/
def ambiguousInterface : Rule where
  name := "ambiguous-interface"
  description := "Limits the number of methods declared by an interface"
  descriptors := [tooManyMethods]
  kinds := [.interfaceDecl]
  check c := do
    let interface := c.node
    let methods := Metrics.interfaceMethodCount interface
    let limit := c.thresholds.maxInterfaceMethods
    if methods ≤ limit then return []
    return [tooManyMethods.diagnostic (← c.identifierLocation interface)
      [interface.name, toString methods, toString limit]]

/-- A class with too many lines. -/
def classTooLong : Descriptor where
  id := "RA16-001"
  name := "god-class"
  title := "The class is too large"
  message := "Class '\x7b0\x7d' has \x7b1\x7d lines (limit \x7b2\x7d)"

/-- Limits the lines of a class. -/
def godClass : Rule where
  name := "god-class"
  description := "Limits the number of source lines in a class"
  descriptors := [classTooLong]
  kinds := [.classDecl]
  check c := do
    let cls := c.node
    let lines ← cls.span.lineCount
    let limit := c.thresholds.maxClassLines
    if lines ≤ limit then return []
    return [classTooLong.diagnostic (← c.identifierLocation cls)
      [cls.name, toString lines, toString limit]]

/-! ## Direction -/

/-- A service that creates a data-access object. -/
def serviceCreatesDataAccess : Descriptor where
  id := "RA15-001"
  name := "architecture-violation"
  title := "The service layer references data access"
  message := "Service classes must not instantiate the data-access object '\x7b0\x7d' directly"

/-- Business logic that creates a service. -/
def logicCreatesService : Descriptor where
  id := "RA15-002"
  name := "architecture-violation"
  title := "The business-logic layer references services"
  message := "Business-logic classes must not instantiate the service object '\x7b0\x7d' directly"

/-- Data access that creates a service or business logic. -/
def dataAccessCreatesUpperLayer : Descriptor where
  id := "RA15-003"
  name := "architecture-violation"
  title := "The data-access layer references business logic or services"
  message := "Data-access classes must not instantiate the service or business-logic object '\x7b0\x7d' directly"

/-- The ways in which creating an object of type `created` in a unit at `path` breaks the order of
layers. A path with several tokens may break it in several ways. -/
def violations (v : Vocabulary) (path created : String) : List Descriptor :=
  (if containsToken path v.service && containsToken created v.dataAccess then
      [serviceCreatesDataAccess] else []) ++
    (if containsToken path v.businessLogic && containsToken created v.service then
      [logicCreatesService] else []) ++
    (if containsToken path v.dataAccess &&
        (containsToken created v.service || containsToken created v.businessLogic) then
      [dataAccessCreatesUpperLayer] else [])

/-- Reports objects created against the direction of layers. -/
def architectureViolation : Rule where
  name := "architecture-violation"
  description := "Forbids instantiating objects of a higher or skipped layer"
  descriptors := [serviceCreatesDataAccess, logicCreatesService, dataAccessCreatesUpperLayer]
  kinds := [.objectCreation]
  check c := do
    if c.enclosingClass.isNone then return []
    let created := c.node.text
    (violations c.vocabulary c.unit.unit.path created).mapM fun d => do
      return d.diagnostic (← c.nodeLocation c.node) [created]

end LayerLint.Catalog
