import LayerLint.Config
import LayerLint.Toml.Document

/-!
# `ConfigFile` — configurations as TOML

Every key is optional and keys that mean nothing are ignored; a key that means something must have a
value of its type. A section may also be written as the array of its values in order; a date stands
for an empty section.

## Contents
- **Values.** Texts, counts and truth values.
- **Sections.** `ConfigFile.fields`, and a reader for each section.
- **Files.** `Config.parse`, and `Config.template`, a file to start from.
-/

namespace LayerLint

namespace ConfigFile

/-! ## Values -/

/-- A text. -/
def readText : Toml.Value → Option String
  | .string s => some s
  | _ => none

/-- A count. -/
def readCount : Toml.Value → Option Nat
  | .integer i => if 0 ≤ i then some i.toNat else none
  | _ => none

/-- A truth value. -/
def readBool : Toml.Value → Option Bool
  | .boolean b => some b
  | _ => none

/-- A value, or the default where none is given. -/
def withDefault {α : Type} (default : α) (read : Toml.Value → Option α) : Option Toml.Value → Option α
  | some v => read v
  | none => some default

/-- A value where one is given. -/
def optional {α : Type} (read : Toml.Value → Option α) : Option Toml.Value → Option (Option α)
  | some v => (read v).map some
  | none => some none

/-! ## Sections -/

/-- The values given for the keys of a section: by name in a table, by place in an array. A date is a
section without values. -/
def fields (keys : List String) : Toml.Value → Option (List (Option Toml.Value))
  | .table entries => some (keys.map fun k => entries.lookup k)
  | .array items => some ((List.range keys.length).map (items[·]?))
  | .dateTime => some (keys.map fun _ => none)
  | _ => none

/-- The section on the analyzer. -/
def readParallelism (v : Toml.Value) : Option (Option Nat) := do
  match ← fields ["parallelism"] v with
  | [parallelism] => optional readCount parallelism
  | _ => none

/-- The section on naming tokens. -/
def readVocabulary (v : Toml.Value) : Option Vocabulary := do
  let d : Vocabulary := {}
  match ← fields (d.entries.map (·.1)) v with
  | [model, view, controller, service, repository, entity, databaseAction, dataAccess,
      businessLogic] =>
      return {
        model := ← withDefault d.model readText model
        view := ← withDefault d.view readText view
        controller := ← withDefault d.controller readText controller
        service := ← withDefault d.service readText service
        repository := ← withDefault d.repository readText repository
        entity := ← withDefault d.entity readText entity
        databaseAction := ← withDefault d.databaseAction readText databaseAction
        dataAccess := ← withDefault d.dataAccess readText dataAccess
        businessLogic := ← withDefault d.businessLogic readText businessLogic }
  | _ => none

/-- The section on limits. -/
def readThresholds (v : Toml.Value) : Option Thresholds := do
  let d : Thresholds := {}
  match ← fields (d.entries.map (·.1)) v with
  | [classLines, controlFlow, methods, parameters, dependencies, keywords, entities, actions,
      interfaceMethods] =>
      return {
        maxClassLines := ← withDefault d.maxClassLines readCount classLines
        maxControlFlow := ← withDefault d.maxControlFlow readCount controlFlow
        maxControllerMethods := ← withDefault d.maxControllerMethods readCount methods
        maxControllerParameters := ← withDefault d.maxControllerParameters readCount parameters
        maxConstructorDependencies :=
          ← withDefault d.maxConstructorDependencies readCount dependencies
        maxQueryLogicKeywords := ← withDefault d.maxQueryLogicKeywords readCount keywords
        maxRepositoryEntities := ← withDefault d.maxRepositoryEntities readCount entities
        maxDatabaseActions := ← withDefault d.maxDatabaseActions readCount actions
        maxInterfaceMethods := ← withDefault d.maxInterfaceMethods readCount interfaceMethods }
  | _ => none

/-- The switch of one rule. -/
def readSwitch (v : Toml.Value) : Option (Option Bool) := do
  match ← fields ["enabled"] v with
  | [enabled] => optional readBool enabled
  | _ => none

/-- The section on rules, which has a table for each of them. -/
def readSwitches : Toml.Value → Option (List (String × Option Bool))
  | .table entries => entries.mapM fun (k, v) => return (k, ← readSwitch v)
  | _ => none

/-- A whole configuration. -/
def read (entries : List (String × Toml.Value)) : Option Config := do
  return {
    parallelism := ← withDefault none readParallelism (entries.lookup "analyzer")
    naming := ← withDefault {} readVocabulary (entries.lookup "naming")
    thresholds := ← withDefault {} readThresholds (entries.lookup "thresholds")
    switches := ← withDefault [] readSwitches (entries.lookup "rules") }

end ConfigFile

/-! ## Files -/

/-- Reads a configuration file. -/
def Config.parse (s : String) : Option Config := (Toml.parse s).bind ConfigFile.read

/-- The lines of a file that sets everything to its default. -/
def Config.templateLines : List String :=
  ["# mvc-lint configuration",
   "",
   "[analyzer]",
   "# Worker threads for parallel analysis (default: one per core)",
   "# parallelism = 4",
   "",
   "# Layer naming tokens, matched case-insensitively against file paths and",
   "# class names",
   "[naming]",
   "model = \"vm\"",
   "view = \"cshtml\"",
   "controller = \"controller\"",
   "service = \"wsr\"",
   "repository = \"dal\"",
   "entity = \"ent\"",
   "database_action = \"vgo_conexion\"",
   "data_access = \"dal\"",
   "business_logic = \"bll\"",
   "",
   "# A diagnostic fires when a count is strictly greater than its limit",
   "[thresholds]",
   "max_class_lines = 500",
   "max_control_flow = 20",
   "max_controller_methods = 20",
   "max_controller_parameters = 10",
   "max_constructor_dependencies = 5",
   "max_query_logic_keywords = 3",
   "max_repository_entities = 3",
   "max_database_actions = 50",
   "max_interface_methods = 20",
   "",
   "# Rules can be disabled by name or by code",
   "# [rules.god-class]",
   "# enabled = false",
   "#",
   "# [rules.RA09-002]",
   "# enabled = false",
   ""]

/-- A file to start from. -/
def Config.template : String := "\n".intercalate Config.templateLines

end LayerLint
