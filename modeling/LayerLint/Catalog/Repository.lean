import LayerLint.Layer
import LayerLint.Metrics
import LayerLint.Rule
import LayerLint.Scan

/-!
# `Catalog.Repository` — what repositories must not become

A repository runs queries on a few entities. These rules look at classes whose name contains the
repository token, and there at the bodies of methods, constructors and operators.

## Contents
- **Logic.** `brainRepository` (RA10): logic keywords in one string literal.
- **Breadth.** `bigRepository` (RA11): distinct entity types referred to.
- **Work.** `laboriousRepository` (RA12): calls of the connection object in one method.
-/

namespace LayerLint.Catalog

/-! ## Logic -/

/-- Too much logic in one literal. -/
def complexQueryLogic : Descriptor where
  id := "RA10-001"
  name := "brain-repository"
  title := "Complex logic in the repository"
  message := "Query \"\x7b0\x7d\" has \x7b1\x7d logic keywords (limit \x7b2\x7d)"

/-- The literals in the bodies of a class. -/
def bodyLiterals (cls : Node) : List Node :=
  (Metrics.methodBodies cls).flatMap fun (_, body) =>
    body.descendants.filter (·.kind == .literal)

/-- The lower-cased text of a literal and its logic count, if the count exceeds the limit. -/
def excessiveLogic? (model : Model) (limit : Nat) (literal : Node) : Option (String × Nat) := do
  let lowered := Text.lower (← (← model.constant literal).text?)
  let count ← Scan.queryLogicCount? lowered
  if limit < count then return (lowered, count) else none

/-- Limits logic in the literals of repositories. -/
def brainRepository : Rule where
  name := "brain-repository"
  description := "Limits SQL logic keywords in repository string literals"
  descriptors := [complexQueryLogic]
  kinds := [.classDecl]
  check c := do
    let cls := c.node
    if !Layer.repository.holds c.vocabulary cls.name then return []
    let limit := c.thresholds.maxQueryLogicKeywords
    let found := (bodyLiterals cls).filterMap fun literal =>
      (excessiveLogic? c.model limit literal).map (literal, ·)
    found.mapM fun (literal, lowered, count) => do
      return complexQueryLogic.diagnostic (← c.nodeLocation literal)
        [lowered, toString count, toString limit]

/-! ## Breadth -/

/-- Too many entities in one repository. -/
def tooManyEntities : Descriptor where
  id := "RA11-001"
  name := "big-repository"
  title := "Repository manages too many entities"
  message := "Repository '\x7b0\x7d' manages \x7b1\x7d entities (limit \x7b2\x7d)"

/-- The name a class is declared under, or else its identifier. -/
def declaredName (model : Model) (cls : Node) : String :=
  match model.declared cls with
  | some s => s.name
  | none => cls.name

/-- The entity an identifier refers to: a named type whose name starts with the entity token. -/
def entity? (model : Model) (token : String) (identifier : Node) : Option Id := do
  let s ← model.symbol identifier
  if s.kind == .namedType && startsWithToken s.name token then return s.id else none

/-- The entities referred to in the bodies of a class, each once. -/
def entities (model : Model) (token : String) (cls : Node) : List Id :=
  ((Metrics.methodBodies cls).flatMap fun (_, body) =>
    (body.descendants.filter (·.kind == .identifierName)).filterMap (entity? model token)).eraseDups

/-- Limits the entity types a repository refers to. -/
def bigRepository : Rule where
  name := "big-repository"
  description := "Limits distinct entity types referenced by a repository"
  descriptors := [tooManyEntities]
  kinds := [.classDecl]
  check c := do
    let cls := c.node
    if !Layer.repository.holds c.vocabulary cls.name then return []
    let count := (entities c.model c.vocabulary.entity cls).length
    let limit := c.thresholds.maxRepositoryEntities
    if count ≤ limit then return []
    return [tooManyEntities.diagnostic (← c.identifierLocation cls)
      [declaredName c.model cls, toString count, toString limit]]

/-! ## Work -/

/-- Too many connection calls in one method. -/
def tooManyDatabaseCalls : Descriptor where
  id := "RA12-001"
  name := "laborious-repository"
  title := "Repository method makes too many database calls"
  message := "Method '\x7b0\x7d' of repository '\x7b1\x7d' makes \x7b2\x7d database calls (limit \x7b3\x7d)"

/-- The number of invocations below a body whose text contains the token of the connection object. -/
def databaseCalls (token : String) (body : Node) : Nat :=
  body.descendants.countP fun n => n.kind == .invocation && containsToken n.text token

/-- Limits connection calls in one method of a repository. -/
def laboriousRepository : Rule where
  name := "laborious-repository"
  description := "Limits connection-object calls in a single repository method"
  descriptors := [tooManyDatabaseCalls]
  kinds := [.classDecl]
  check c := do
    let cls := c.node
    if !Layer.repository.holds c.vocabulary cls.name then return []
    let limit := c.thresholds.maxDatabaseActions
    let methods := (Metrics.methodBodies cls).filter fun (m, body) =>
      m.kind == .methodDecl && limit < databaseCalls c.vocabulary.databaseAction body
    methods.mapM fun (m, body) => do
      return tooManyDatabaseCalls.diagnostic (← c.identifierLocation cls)
        [m.name, declaredName c.model cls,
         toString (databaseCalls c.vocabulary.databaseAction body), toString limit]

end LayerLint.Catalog
