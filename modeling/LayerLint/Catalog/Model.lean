import LayerLint.Layer
import LayerLint.Rule
import LayerLint.Scan

/-!
# `Catalog.Model` — what models must not hold

A model describes data handed to a view. Markup belongs in the view, SQL in the repository, HTTP
actions in the controller.

## Contents
- **Content.** `modelView` (RA01): HTML tags and SQL in the text of a unit, for classes whose name
  ends with the model token. Every tag is reported, of the SQL commands the first.
- **Actions.** `modelController` (RA02): the first member with an HTTP verb, for classes whose name
  contains the model token.
-/

namespace LayerLint.Catalog

/-! ## Content -/

/-- HTML markup in a model. -/
def htmlInModel : Descriptor where
  id := "RA01-001"
  name := "model-view"
  title := "HTML tags are not allowed in the model"
  message := "Model '\x7b0\x7d' contains the HTML tag '\x7b1\x7d'"

/-- SQL text in a model. -/
def sqlInModel : Descriptor where
  id := "RA01-002"
  name := "model-view"
  title := "SQL commands are not allowed in the model"
  message := "Model '\x7b0\x7d' contains the SQL command '\x7b1\x7d'"

/-- Keeps markup and SQL out of models. -/
def modelView : Rule where
  name := "model-view"
  description := "Forbids HTML tags and SQL commands in model classes"
  descriptors := [htmlInModel, sqlInModel]
  kinds := [.classDecl]
  check c := do
    let cls := c.node
    if !isModelBySuffix c.vocabulary cls.name then return []
    let text := c.unit.loweredText
    let location ← c.identifierLocation cls
    let tags := Scan.allTokens Scan.htmlTags text
    let commands := (Scan.firstToken? Scan.sqlTokens text).toList
    return tags.map (htmlInModel.diagnostic location [cls.name, ·]) ++
      commands.map (sqlInModel.diagnostic location [cls.name, ·])

/-! ## Actions -/

/-- HTTP verb on a member of a model. -/
def httpActionInModel : Descriptor where
  id := "RA02-001"
  name := "model-controller"
  title := "HTTP actions are not allowed in the model"
  message := "Model '\x7b0\x7d' declares the HTTP action '\x7b1\x7d'"

/-- Keeps HTTP actions out of models. -/
def modelController : Rule where
  name := "model-controller"
  description := "Forbids HTTP verb attributes on model members"
  descriptors := [httpActionInModel]
  kinds := [.classDecl]
  check c := do
    let cls := c.node
    if !Layer.model.holds c.vocabulary cls.name then return []
    match Scan.firstHttpMember? c.model cls with
    | some member =>
        return [httpActionInModel.diagnostic (← c.nodeLocation member) [cls.name, member.name]]
    | none => return []

end LayerLint.Catalog
