import LayerLint.Json.Record
import LayerLint.Text.Blank
import LayerLint.Text.Lowercase

/-!
# `Settings` — naming tokens and limits

Layers are recognised by tokens in names and paths; counts are compared with limits. Both have
defaults and may be set by a user, who may write tokens in any case and with blanks around them.

## Contents
- **Tokens.** `Vocabulary`, its entries in order, and `Vocabulary.folded`, the form matchers need.
- **Limits.** `Thresholds` and its entries in order.
- **Settings.** `Settings`, `SettingsError`, `Settings.validate`: no token is empty, no limit zero.
- **Reading.** Both records from JSON, missing fields taking their defaults.
-/

namespace LayerLint

/-! ## Tokens -/

/-- The tokens by which layers are recognised. -/
structure Vocabulary where
  model : String := "vm"
  view : String := "cshtml"
  controller : String := "controller"
  service : String := "wsr"
  repository : String := "dal"
  entity : String := "ent"
  databaseAction : String := "vgo_conexion"
  dataAccess : String := "dal"
  businessLogic : String := "bll"
  deriving Repr, DecidableEq, Inhabited

namespace Vocabulary

/-- The tokens with their keys, in order. -/
def entries (v : Vocabulary) : List (String × String) :=
  [("model", v.model), ("view", v.view), ("controller", v.controller), ("service", v.service),
   ("repository", v.repository), ("entity", v.entity), ("database_action", v.databaseAction),
   ("data_access", v.dataAccess), ("business_logic", v.businessLogic)]

/-- Applies a function to every token. -/
def map (f : String → String) (v : Vocabulary) : Vocabulary where
  model := f v.model
  view := f v.view
  controller := f v.controller
  service := f v.service
  repository := f v.repository
  entity := f v.entity
  databaseAction := f v.databaseAction
  dataAccess := f v.dataAccess
  businessLogic := f v.businessLogic

/-- The form in which a token is matched: without blanks around it, in lower case. -/
def foldToken (token : String) : String := Text.lower (Text.trim token)

/-- Every token in the form in which it is matched. -/
def folded (v : Vocabulary) : Vocabulary := v.map foldToken

end Vocabulary

/-! ## Limits -/

/-- Limits; a count exceeds its limit when it is strictly greater. -/
structure Thresholds where
  maxClassLines : Nat := 500
  maxControlFlow : Nat := 20
  maxControllerMethods : Nat := 20
  maxControllerParameters : Nat := 10
  maxConstructorDependencies : Nat := 5
  maxQueryLogicKeywords : Nat := 3
  maxRepositoryEntities : Nat := 3
  maxDatabaseActions : Nat := 50
  maxInterfaceMethods : Nat := 20
  deriving Repr, DecidableEq, Inhabited

/-- The limits with their keys, in order. -/
def Thresholds.entries (t : Thresholds) : List (String × Nat) :=
  [("max_class_lines", t.maxClassLines), ("max_control_flow", t.maxControlFlow),
   ("max_controller_methods", t.maxControllerMethods),
   ("max_controller_parameters", t.maxControllerParameters),
   ("max_constructor_dependencies", t.maxConstructorDependencies),
   ("max_query_logic_keywords", t.maxQueryLogicKeywords),
   ("max_repository_entities", t.maxRepositoryEntities),
   ("max_database_actions", t.maxDatabaseActions), ("max_interface_methods", t.maxInterfaceMethods)]

/-! ## Settings -/

/-- What every rule is given. -/
structure Settings where
  vocabulary : Vocabulary := {}
  thresholds : Thresholds := {}
  deriving Repr, DecidableEq, Inhabited

/-- What is wrong with settings; the key names the entry. -/
inductive SettingsError where
  | emptyToken (key : String)
  | zeroThreshold (key : String)
  deriving Repr, DecidableEq

/-- The wording of an error. -/
def SettingsError.message : SettingsError → String
  | emptyToken key =>
      "Invalid configuration value `naming." ++ key ++ "`: naming token must not be empty"
  | zeroThreshold key =>
      "Invalid configuration value `thresholds." ++ key ++ "`: threshold must be greater than zero"

namespace Settings

/-- Settings with folded tokens. -/
def folded (s : Settings) : Settings := { s with vocabulary := s.vocabulary.folded }

/-- The first entry that cannot be used, tokens before limits. -/
def firstError? (s : Settings) : Option SettingsError :=
  match s.vocabulary.entries.find? (·.2 == "") with
  | some (key, _) => some (.emptyToken key)
  | none =>
      match s.thresholds.entries.find? (·.2 == 0) with
      | some (key, _) => some (.zeroThreshold key)
      | none => none

/-- Settings are usable when no token is empty and no limit is zero. -/
def validate (s : Settings) : Except SettingsError Unit :=
  match s.firstError? with
  | some e => .error e
  | none => .ok ()

end Settings

/-! ## Reading -/

/-- Reads tokens; those not given keep their defaults. -/
def Vocabulary.decode (v : Json.Value) : Option Vocabulary := do
  let d : Vocabulary := {}
  match ← Json.fields (d.entries.map (·.1)) v with
  | [model, view, controller, service, repository, entity, databaseAction, dataAccess,
      businessLogic] =>
      return {
        model := ← Json.withDefault d.model Json.readText model
        view := ← Json.withDefault d.view Json.readText view
        controller := ← Json.withDefault d.controller Json.readText controller
        service := ← Json.withDefault d.service Json.readText service
        repository := ← Json.withDefault d.repository Json.readText repository
        entity := ← Json.withDefault d.entity Json.readText entity
        databaseAction := ← Json.withDefault d.databaseAction Json.readText databaseAction
        dataAccess := ← Json.withDefault d.dataAccess Json.readText dataAccess
        businessLogic := ← Json.withDefault d.businessLogic Json.readText businessLogic }
  | _ => none

/-- Reads limits; those not given keep their defaults. -/
def Thresholds.decode (v : Json.Value) : Option Thresholds := do
  let d : Thresholds := {}
  match ← Json.fields (d.entries.map (·.1)) v with
  | [classLines, controlFlow, methods, parameters, dependencies, keywords, entities, actions,
      interfaceMethods] =>
      return {
        maxClassLines := ← Json.withDefault d.maxClassLines Json.readCount classLines
        maxControlFlow := ← Json.withDefault d.maxControlFlow Json.readCount controlFlow
        maxControllerMethods := ← Json.withDefault d.maxControllerMethods Json.readCount methods
        maxControllerParameters :=
          ← Json.withDefault d.maxControllerParameters Json.readCount parameters
        maxConstructorDependencies :=
          ← Json.withDefault d.maxConstructorDependencies Json.readCount dependencies
        maxQueryLogicKeywords := ← Json.withDefault d.maxQueryLogicKeywords Json.readCount keywords
        maxRepositoryEntities := ← Json.withDefault d.maxRepositoryEntities Json.readCount entities
        maxDatabaseActions := ← Json.withDefault d.maxDatabaseActions Json.readCount actions
        maxInterfaceMethods :=
          ← Json.withDefault d.maxInterfaceMethods Json.readCount interfaceMethods }
  | _ => none

end LayerLint
