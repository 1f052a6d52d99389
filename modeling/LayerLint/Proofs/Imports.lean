import LayerLint.Proofs.Contents
import Mathlib.Data.List.Forall2

/-!
# `Proofs.Imports` — imports in services are reported for every class

A directive that imports a data-access namespace belongs to the whole unit, but a rule only gets to see classes. So
the rule on services goes through all directives at each class it meets, and what was to be one finding for each
directive is one for each pair of a class and a directive.

## Contents
- **Directives.** `dataAccessDirectives`, and what is raised for them at a class.
- **One for each.** `Setup.OnePerDirective`, and when it holds: `Setup.onePerDirective_iff`.
- **Result.** `imports_reported_per_class`; `second_class_repeats_imports`.
-/

namespace LayerLint

/-! ## Directives -/

/-- The using directives among some nodes that import a data-access namespace. -/
def dataAccessDirectives (ns : List Node) : List Node :=
  ns.filter fun d => d.kind == .usingDirective && Scan.isDataAccessNamespace (Text.trim d.text)

/-- What is said of a directive at a class: the name of the class and the namespace. -/
def Node.importIssue (cls d : Node) : Issue := ⟨cls.identifierSpan, [cls.name, Text.trim d.text]⟩

/-- What is said of the directives of a unit at one of its classes; the root is not among them. -/
def UnitContext.importIssues (u : UnitContext) (cls : Node) : List Issue :=
  if ofPath .service u cls then (dataAccessDirectives u.unit.root.descendants).map cls.importIssue else []

/-- A root that is no directive may be counted in. -/
theorem dataAccessDirectives_preorder {root : Node} (h : root.kind ≠ .usingDirective) :
    dataAccessDirectives root.preorder = dataAccessDirectives root.descendants := by
  have hroot : (root.kind == .usingDirective && Scan.isDataAccessNamespace (Text.trim root.text)) = false := by
    rw [beq_eq_false_iff_ne.mpr h, Bool.false_and]
  rw [Node.preorder_eq, ← Node.descendants_eq, dataAccessDirectives, List.filter_cons_of_neg (by rw [hroot]; decide)]
  rfl

namespace Catalog

theorem dataAccessImports_eq (unit : CompilationUnit) :
    dataAccessImports unit = (dataAccessDirectives unit.root.descendants).map (Text.trim ·.text) := by
  have hdirectives : dataAccessDirectives unit.root.descendants =
      unit.usingDirectives.filter fun d => Scan.isDataAccessNamespace (Text.trim d.text) := by
    rw [CompilationUnit.usingDirectives, List.filter_filter]
    exact List.filter_congr fun d _ => Bool.and_comm _ _
  rw [hdirectives, dataAccessImports, List.filter_map, Function.comp_def]

theorem meddlingService_raises_imports : meddlingService.Raises dataAccessImportInService fun c =>
    c.unit.importIssues c.node := by
  have hraises : meddlingService.Raises dataAccessImportInService fun c =>
      if UnitContext.ofPath .service c.unit c.node then
        ((dataAccessImports c.unit.unit).map ([c.node.name, ·])).map (Issue.mk c.node.identifierSpan) else [] := by
    apply Rule.raises_at_identifier meddlingService_check
    intro c location
    rw [serviceFindings, List.filter_append, Descriptor.filter_code_self,
      Descriptor.filter_code_other sqlInService (by decide) (List.forall_mem_map.mpr fun _ _ => rfl),
      List.nil_append, List.map_map]
    rfl
  simp only [dataAccessImports_eq, List.map_map] at hraises
  exact hraises

end Catalog

/-! ## One for each -/

/-- Findings are made one by one, each from its own element. -/
theorem mapM_eq_ok_iff {α : Type} {f : α → Except Fault Diagnostic} {xs : List α} {ds : List Diagnostic} :
    xs.mapM f = .ok ds ↔ List.Forall₂ (fun x d => f x = .ok d) xs ds := by
  induction xs generalizing ds with
  | nil =>
      rw [List.forall₂_nil_left_iff]
      exact ⟨fun h => (Except.ok.inj h).symm, fun h => h ▸ rfl⟩
  | cons x xs ih => simp only [mapM_cons_eq_ok_iff, ih, List.forall₂_cons_left_iff, exists_and_left]

/-- **One finding for each directive**: the findings on imports are, in some order, one for each directive of the
unit that imports a data-access namespace. It names the namespace and some class of the unit. -/
def UnitContext.OnePerDirective (u : UnitContext) (ds : List Diagnostic) : Prop :=
  ∃ found, List.Forall₂ (fun d finding => ∃ cls ∈ u.unit.root.nodesOf .classDecl,
      Issue.report u Catalog.dataAccessImportInService (cls.importIssue d) = .ok finding)
    (dataAccessDirectives u.unit.root.preorder) found ∧
    (ds.filter (·.code == Catalog.dataAccessImportInService.id)).Perm found

namespace Setup

variable {s : Setup} {u : UnitContext} {desc : Descriptor} {issues : List Issue} {ds : List Diagnostic}

/-- Of a kind that is reported, the findings are those of the issues in some order. -/
theorem Reports.exists_perm (h : s.Reports u desc issues ds) (hactive : s.activates desc = true) :
    ∃ found, List.Forall₂ (fun i d => Issue.report u desc i = .ok d) issues found ∧
      (ds.filter (·.code == desc.id)).Perm found := by
  obtain ⟨found, hfound, hsorted⟩ := h
  rw [if_pos hactive] at hfound
  refine ⟨found, mapM_eq_ok_iff.mp hfound, ?_⟩
  rw [hsorted]
  exact List.mergeSort_perm found Diagnostic.le

/-- **One finding for each pair of a class and a directive** is one for each directive exactly if there is one class
or no directive. -/
theorem onePerDirective_iff (hactive : s.activates Catalog.dataAccessImportInService = true)
    (hroot : u.unit.root.kind ≠ .usingDirective) (hclasses : u.unit.root.nodesOf .classDecl ≠ [])
    (hreports : s.Reports u Catalog.dataAccessImportInService ((u.unit.root.nodesOf .classDecl).flatMap fun cls =>
      (dataAccessDirectives u.unit.root.descendants).map cls.importIssue) ds) :
    u.OnePerDirective ds ↔
      (u.unit.root.nodesOf .classDecl).length = 1 ∨ dataAccessDirectives u.unit.root.preorder = [] := by
  obtain ⟨found, hfound, hperm⟩ := hreports.exists_perm hactive
  rw [← dataAccessDirectives_preorder hroot] at hfound
  rw [UnitContext.OnePerDirective]
  generalize u.unit.root.nodesOf .classDecl = classes at *
  generalize dataAccessDirectives u.unit.root.preorder = directives at *
  constructor
  · rintro ⟨others, hothers, hperm'⟩
    -- there are as many findings as pairs, and as many as directives
    have hpairs : found.length = classes.length * directives.length := by
      rw [← hfound.length_eq]
      simp
    have hlength : found.length = directives.length := by
      rw [← hperm.length_eq, hperm'.length_eq, hothers.length_eq]
    rw [hlength] at hpairs
    by_cases hnil : directives = []
    · exact .inr hnil
    · apply Or.inl
      have hpos : 0 < directives.length := List.length_pos_of_ne_nil hnil
      exact (Nat.eq_of_mul_eq_mul_right hpos ((Nat.one_mul _).trans hpairs)).symm
  · intro h
    rcases h with hone | rfl
    · obtain ⟨cls, rfl⟩ := List.length_eq_one_iff.mp hone
      rw [List.flatMap_singleton, List.forall₂_map_left_iff] at hfound
      exact ⟨found, hfound.imp fun d x hx => ⟨cls, List.mem_singleton.mpr rfl, hx⟩, hperm⟩
    · have hnone : (classes.flatMap fun cls => ([] : List Node).map cls.importIssue) = [] :=
        List.flatMap_eq_nil_iff.mpr fun _ _ => rfl
      rw [hnone] at hfound
      obtain rfl := List.forall₂_nil_left_iff.mp hfound
      exact ⟨[], .nil, hperm⟩

variable {unit : CompilationUnit} {model : Model}

/-- In a unit of the services, all directives are reported at each class. -/
theorem reports_imports (hrules : s.rules = Catalog.rules) (hds : s.analyzer.analyzeUnit unit model = .ok ds)
    (hservice : Layer.service.holds s.analyzer.settings.vocabulary unit.path = true) :
    s.Reports (s.unitContext unit model) Catalog.dataAccessImportInService
      ((unit.root.nodesOf .classDecl).flatMap fun cls =>
        (dataAccessDirectives unit.root.descendants).map cls.importIssue) ds := by
  have hissues : (s.unitContext unit model).importIssues =
      fun cls => (dataAccessDirectives unit.root.descendants).map cls.importIssue := by
    funext cls
    exact if_pos hservice
  rw [← hissues]
  exact reports_nodes hrules (by simp [Catalog.rules]) (.tail _ (.head _)) rfl (fun u n => u.importIssues n)
    Catalog.meddlingService_raises_imports hds

end Setup

/-! ## Result -/

/-- **Imports are reported for every class.** In a unit of the services, the findings on imports of data-access
namespaces are one for each pair of a class and such a directive, at the class. If a class is there and the root is
no directive itself, this is one finding for each directive exactly if there is no other class, or no directive. -/
theorem imports_reported_per_class {s : Setup} {a : Analyzer} (hrules : s.rules = Catalog.rules)
    (hbuild : s.build = .ok a) {unit : CompilationUnit} {model : Model} {ds : List Diagnostic}
    (hds : a.analyzeUnit unit model = .ok ds)
    (hservice : Layer.service.holds a.settings.vocabulary unit.path = true) :
    let u := s.unitContext unit model
    let classes := unit.root.nodesOf .classDecl
    s.Reports u Catalog.dataAccessImportInService
      (classes.flatMap fun cls => (dataAccessDirectives unit.root.descendants).map cls.importIssue) ds ∧
    (s.activates Catalog.dataAccessImportInService = true → unit.root.kind ≠ .usingDirective → classes ≠ [] →
      (u.OnePerDirective ds ↔ classes.length = 1 ∨ dataAccessDirectives unit.root.preorder = [])) := by
  intro u classes
  obtain ⟨-, rfl⟩ := s.build_eq_ok_iff.mp hbuild
  have hreports := Setup.reports_imports hrules hds hservice
  exact ⟨hreports, fun hactive hroot hclasses => Setup.onePerDirective_iff hactive hroot hclasses hreports⟩

namespace Sample

/-- A service with one directive above its namespace and one inside. -/
def service : CompilationUnit where
  path := "Modulos/Usuario.wsr.cs"
  root := .mk { kind := .compilationUnit }
    [(Node.leaf .usingDirective).withText "System.Data", (Node.leaf .usingDirective).withText "System",
     .mk { kind := .namespaceBlock }
      [(Node.leaf .usingDirective).withText " system.XML",
       .mk { kind := .classDecl, identifier := some "UsuarioServicio" } []]]

/-- A service in two parts, with one directive. -/
def partialService : CompilationUnit where
  path := "Modulos/Usuario.wsr.cs"
  root := .mk { kind := .compilationUnit }
    [(Node.leaf .usingDirective).withText "System.Data",
     .mk { kind := .classDecl, identifier := some "UsuarioServicio" } [],
     .mk { kind := .classDecl, identifier := some "UsuarioServicio" } []]

end Sample

/-- Each of the two directives is reported once, wherever it stands. -/
theorem imports_reported_per_class_sample :
    Sample.house.build = .ok Sample.house.analyzer ∧
    Layer.service.holds Sample.house.analyzer.settings.vocabulary Sample.service.path = true ∧
    ∃ ds, Sample.house.analyzer.analyzeUnit Sample.service Sample.model = .ok ds ∧
      ds.filter (·.code == "RA09-002") =
        [Sample.issued Catalog.dataAccessImportInService "Modulos/Usuario.wsr.cs" 0 0
          "Service 'UsuarioServicio' imports the data-access library 'System.Data'",
         Sample.issued Catalog.dataAccessImportInService "Modulos/Usuario.wsr.cs" 0 0
          "Service 'UsuarioServicio' imports the data-access library 'system.XML'"] ∧
      (Sample.house.unitContext Sample.service Sample.model).OnePerDirective ds := by
  have hall : ∀ c ∈ Sample.house.calls Sample.service Sample.model, ∃ ds, c.run = .ok ds :=
    Call.exists_ok_of_all_isOk (by decide +kernel)
  have hds := Sample.house.analyzeUnit_of_all_ok hall
  have hservice : Layer.service.holds Sample.house.analyzer.settings.vocabulary Sample.service.path = true := by
    decide +kernel
  have hactive : Sample.house.activates Catalog.dataAccessImportInService = true := by decide +kernel
  obtain ⟨hreports, hiff⟩ := imports_reported_per_class rfl Sample.build_house hds hservice
  have hone := (hiff hactive (by decide) (by decide +kernel)).mpr (.inl (by decide +kernel))
  exact ⟨Sample.build_house, hservice, _, hds,
    hreports.filter_eq hactive (by decide +kernel) (by decide +kernel), hone⟩

/-- **A second class repeats the imports.** A service in two parts gets two findings for its one directive. -/
theorem second_class_repeats_imports :
    ∃ a, Sample.catalog.build = .ok a ∧
      ¬ ∀ (unit : CompilationUnit) (model : Model) (ds : List Diagnostic), a.analyzeUnit unit model = .ok ds →
          Layer.service.holds a.settings.vocabulary unit.path = true → unit.root.nodesOf .classDecl ≠ [] →
            (Sample.catalog.unitContext unit model).OnePerDirective ds := by
  refine ⟨_, Sample.build_catalog, fun h => ?_⟩
  have hall : ∀ c ∈ Sample.catalog.calls Sample.partialService Sample.model, ∃ ds, c.run = .ok ds :=
    Call.exists_ok_of_all_isOk (by decide +kernel)
  have hds := Sample.catalog.analyzeUnit_of_all_ok hall
  have hservice : Layer.service.holds Sample.catalog.analyzer.settings.vocabulary Sample.partialService.path =
      true := by decide +kernel
  have hclasses : Sample.partialService.root.nodesOf .classDecl ≠ [] := by decide +kernel
  have hactive := Sample.catalog.activates_of_unrestricted rfl rfl Catalog.dataAccessImportInService
  have hreports := Setup.reports_imports rfl hds hservice
  rcases (Setup.onePerDirective_iff hactive (by decide) hclasses hreports).mp (h _ _ _ hds hservice hclasses) with
    hone | hnone
  · exact absurd hone (by decide +kernel)
  · exact absurd hnone (by decide +kernel)

end LayerLint
