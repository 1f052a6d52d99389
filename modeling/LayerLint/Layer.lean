import LayerLint.Settings
import LayerLint.Text.Search

/-!
# `Layer` — layers recognised by name

A name or path belongs to a layer when its lower case contains the layer's token. Nothing resolves
ambiguity: a name may belong to several layers.

## Contents
- **Layers.** `Layer`, its names in data and in text.
- **Tokens in names.** `containsToken`, `startsWithToken`, `endsWithToken`; tokens are compared as
  they are, names in lower case.
- **Membership.** `Layer.holds`, `Layer.classify`, and `isModelBySuffix`, the stricter test of the
  rules on model content.
-/

namespace LayerLint

/-! ## Layers -/

/-- Architectural layers. -/
inductive Layer where
  | model
  | view
  | controller
  | service
  | repository
  | entity
  | databaseAction
  | businessLogic
  | unclassified
  deriving Repr, DecidableEq

namespace Layer

/-- The layers that have a token, in order. -/
def tokenLayers : List Layer :=
  [model, view, controller, service, repository, entity, databaseAction, businessLogic]

/-- The name of a layer in data. -/
def name : Layer → String
  | model => "model"
  | view => "view"
  | controller => "controller"
  | service => "service"
  | repository => "repository"
  | entity => "entity"
  | databaseAction => "database_action"
  | businessLogic => "business_logic"
  | unclassified => "unclassified"

/-- The name of a layer in text. -/
def display : Layer → String
  | databaseAction => "database-action"
  | businessLogic => "business-logic"
  | l => l.name

/-- The token of a layer. -/
def token? (v : Vocabulary) : Layer → Option String
  | model => some v.model
  | view => some v.view
  | controller => some v.controller
  | service => some v.service
  | repository => some v.repository
  | entity => some v.entity
  | databaseAction => some v.databaseAction
  | businessLogic => some v.businessLogic
  | unclassified => none

end Layer

/-! ## Tokens in names -/

/-- The lower case of `name` contains `token`. -/
def containsToken (name token : String) : Bool := Text.occursIn token (Text.lower name)

/-- The lower case of `name` starts with `token`. -/
def startsWithToken (name token : String) : Bool := Text.startsWith (Text.lower name) token

/-- The lower case of `name` ends with `token`. -/
def endsWithToken (name token : String) : Bool := Text.endsWith (Text.lower name) token

/-! ## Membership -/

namespace Layer

/-- The name belongs to the layer; nothing belongs to `unclassified` by a token. -/
def holds (v : Vocabulary) (l : Layer) (name : String) : Bool :=
  match l.token? v with
  | some token => containsToken name token
  | none => false

/-- The layers a name belongs to, in order; `unclassified` if there is none. -/
def classify (v : Vocabulary) (name : String) : List Layer :=
  match tokenLayers.filter (·.holds v name) with
  | [] => [unclassified]
  | ls => ls

end Layer

/-- The name is that of a model by its ending. -/
def isModelBySuffix (v : Vocabulary) (name : String) : Bool := endsWithToken name v.model

end LayerLint
