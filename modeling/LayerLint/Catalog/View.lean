import LayerLint.Layer
import LayerLint.Rule
import LayerLint.Scan

/-!
# `Catalog.View` — what views must not hold

A view renders what the controller hands it. These rules look at units whose path contains the view
token.

## Contents
- **Data access.** `viewModel` (RA03): the first SQL command in the text, and members typed or
  attributed from data-access namespaces, once per class.
- **Actions.** `viewController` (RA04): the first member with an HTTP verb.
-/

namespace LayerLint.Catalog

/-! ## Data access -/

/-- SQL text in a view. -/
def sqlInView : Descriptor where
  id := "RA03-001"
  name := "view-model"
  title := "SQL commands are not allowed in the view"
  message := "View '\x7b0\x7d' contains the SQL command '\x7b1\x7d'"

/-- Data-access reference in a view. -/
def dataAccessInView : Descriptor where
  id := "RA03-002"
  name := "view-model"
  title := "Data-access library references are not allowed in the view"
  message := "View '\x7b0\x7d' references a data-access library"

/-- Keeps SQL and data-access references out of views. -/
def viewModel : Rule where
  name := "view-model"
  description := "Forbids SQL commands and data-access library references in views"
  descriptors := [sqlInView, dataAccessInView]
  kinds := [.classDecl]
  check c := do
    let cls := c.node
    if !Layer.view.holds c.vocabulary c.unit.unit.path then return []
    let location ← c.identifierLocation cls
    let commands := (Scan.firstToken? Scan.sqlTokens c.unit.loweredText).toList
    let references := cls.members.any (Scan.referencesDataAccess c.model)
    return commands.map (sqlInView.diagnostic location [cls.name, ·]) ++
      (if references then [dataAccessInView.diagnostic location [cls.name]] else [])

/-! ## Actions -/

/-- HTTP verb on a member of a view. -/
def httpActionInView : Descriptor where
  id := "RA04-001"
  name := "view-controller"
  title := "HTTP actions are not allowed in the view"
  message := "View '\x7b0\x7d' declares the HTTP action '\x7b1\x7d'"

/-- Keeps HTTP actions out of views. -/
def viewController : Rule where
  name := "view-controller"
  description := "Forbids HTTP verb attributes on view members"
  descriptors := [httpActionInView]
  kinds := [.classDecl]
  check c := do
    let cls := c.node
    if !Layer.view.holds c.vocabulary c.unit.unit.path then return []
    match Scan.firstHttpMember? c.model cls with
    | some member =>
        return [httpActionInView.diagnostic (← c.nodeLocation member) [cls.name, member.name]]
    | none => return []

end LayerLint.Catalog
