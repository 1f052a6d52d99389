import LayerLint.Catalog.Controller
import LayerLint.Catalog.Model
import LayerLint.Catalog.Repository
import LayerLint.Catalog.Service
import LayerLint.Catalog.Structure
import LayerLint.Catalog.View

/-!
# `Catalog` — the built-in rules

## Contents
- **Rules.** `Catalog.rules`, in the order of their areas.
- **Descriptors.** `Catalog.descriptors` in order of codes, and `Catalog.find` by code or name.
-/

namespace LayerLint

/-- The descriptor is named by `query`: by its code, ASCII case aside, or exactly by its name. -/
def Descriptor.isNamedBy (d : Descriptor) (query : String) : Bool :=
  Text.sameIgnoringCase query d.id || query == d.name

namespace Catalog

/-- Every built-in rule. -/
def rules : List Rule :=
  [modelView, modelController, viewModel, viewController, controllerView, controllerModel,
   controllerBrain, promiscuousController, meddlingService, brainRepository, bigRepository,
   laboriousRepository, abstractionWithoutDecoupling, ambiguousInterface, architectureViolation,
   godClass]

/-- Every built-in descriptor, in order of codes. -/
def descriptors : List Descriptor :=
  (rules.flatMap (·.descriptors)).mergeSort fun a b => (compare a.id b.id).isLE

/-- The descriptors a query names. -/
def find (query : String) : List Descriptor := descriptors.filter (·.isNamedBy query)

end Catalog

end LayerLint
