import LayerLint.Layer
import LayerLint.Rule
import LayerLint.Scan

/-!
# `Catalog.Service` — what services must not hold

## Contents
- **Data access.** `meddlingService` (RA09), for units whose path contains the service token: the
  first SQL command in the text, and each import of a data-access namespace. Both are reported for
  every class of the unit.
-/

namespace LayerLint.Catalog

/-- SQL text in a service. -/
def sqlInService : Descriptor where
  id := "RA09-001"
  name := "meddling-service"
  title := "SQL commands are not allowed in the service layer"
  message := "Service '\x7b0\x7d' contains the SQL command '\x7b1\x7d'"

/-- Import of a data-access namespace in a service. -/
def dataAccessImportInService : Descriptor where
  id := "RA09-002"
  name := "meddling-service"
  title := "Data-access library references are not allowed in the service layer"
  message := "Service '\x7b0\x7d' imports the data-access library '\x7b1\x7d'"

/-- The data-access namespaces a unit imports, in order. -/
def dataAccessImports (u : CompilationUnit) : List String :=
  (u.usingDirectives.map (Text.trim ·.text)).filter Scan.isDataAccessNamespace

/-- Keeps SQL and data-access imports out of services. -/
def meddlingService : Rule where
  name := "meddling-service"
  description := "Forbids SQL commands and data-access imports in the service layer"
  descriptors := [sqlInService, dataAccessImportInService]
  kinds := [.classDecl]
  check c := do
    let cls := c.node
    if !Layer.service.holds c.vocabulary c.unit.unit.path then return []
    let location ← c.identifierLocation cls
    let commands := (Scan.firstToken? Scan.sqlTokens c.unit.loweredText).toList
    return commands.map (sqlInService.diagnostic location [cls.name, ·]) ++
      (dataAccessImports c.unit.unit).map
        (dataAccessImportInService.diagnostic location [cls.name, ·])

end LayerLint.Catalog
