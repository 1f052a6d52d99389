import LayerLint.Proofs.Reporting

/-!
# `Proofs.Sizes` — limits on the structure of types are enforced exactly

Five rules compare a number that is read off the tree with a limit. Here these numbers are defined by recursion
on the tree, without worklists, and the findings of each of the five kinds are shown to be the reports of the
nodes that exceed their limit: one for each of them, however deep it is nested, and no others.

## Contents
- **Counting.** `Span.height`, and `Node.countBelow`, the nodes with a property at any depth below a node.
- **Measures.** `Node.actions` and what is summed over them, `Node.dependencies`, `Node.databaseCalls`; each is
  shown to be the metric of the rules.
- **Limits.** `Limit.classLines`, `Limit.interfaceMethods`, `Limit.controlFlow`, `Limit.publicSurface`, and
  `UnitContext.laboriousMethods`.
- **Rules.** Each limit is enforced by its rule.
- **Result.** `structural_limits_exact`.
-/

namespace LayerLint

/-! ## Counting -/

/-- The lines from the first to the last, both included; a span that ends before it starts has one. -/
def Span.height (s : Span) : Nat := s.endLine.toNat - s.startLine.toNat + 1

/-- Lines that can be counted are counted right. -/
theorem Span.height_of_lineCount {s : Span} {n : Nat} (h : s.lineCount = .ok n) : s.height = n := by
  unfold lineCount at h
  dsimp only at h
  split at h
  · exact Except.ok.inj h
  · cases h

namespace Node

variable (p : Node → Bool)

mutual

/-- The number of nodes of a tree with a property. -/
def count : Node → Nat
  | mk info children => (if p (mk info children) then 1 else 0) + countAll children

/-- The number of nodes of a forest with a property. -/
def countAll : List Node → Nat
  | [] => 0
  | n :: ns => n.count + countAll ns

end

/-- The number of nodes with a property at any depth below a node. -/
def countBelow (n : Node) : Nat := countAll p n.children

mutual

theorem countP_preorder : ∀ n : Node, n.preorder.countP p = n.count p
  | mk info children => by
      rw [preorder, count, List.countP_cons, countP_preorderAll children, Nat.add_comm]

theorem countP_preorderAll : ∀ ns : List Node, (preorderAll ns).countP p = countAll p ns
  | [] => rfl
  | n :: ns => by rw [preorderAll, countAll, List.countP_append, countP_preorder n, countP_preorderAll ns]

end

/-- **The worklist counts what the recursion counts.** -/
theorem countP_descendants (n : Node) : n.descendants.countP p = n.countBelow p := by
  rw [descendants_eq, countP_preorderAll, countBelow]

end Node

/-! ## Measures -/

/-- The constructs that branch or loop. -/
def Kind.controlFlow : List Kind :=
  [ifStatement, switchStatement, forStatement, forEachStatement, whileStatement, doStatement, catchClause,
   conditional]

theorem Kind.isControlFlow_eq (k : Kind) : k.isControlFlow = decide (k ∈ controlFlow) := by
  cases k <;> rfl

namespace Node

/-- An action of a class: a public method that overrides nothing and is not named like the class. -/
structure IsAction (cls m : Node) : Prop where
  method : m.kind = .methodDecl
  visible : .isPublic ∈ m.info.modifiers
  declaresAnew : .isOverride ∉ m.info.modifiers
  differs : m.name ≠ cls.name

theorem isAction_iff {cls m : Node} : cls.IsAction m ↔
    m.kind = .methodDecl ∧ .isPublic ∈ m.info.modifiers ∧ .isOverride ∉ m.info.modifiers ∧ m.name ≠ cls.name :=
  ⟨fun ⟨h1, h2, h3, h4⟩ => ⟨h1, h2, h3, h4⟩, fun ⟨h1, h2, h3, h4⟩ => ⟨h1, h2, h3, h4⟩⟩

instance (cls m : Node) : Decidable (cls.IsAction m) := decidable_of_iff' _ isAction_iff

/-- The actions among the direct members of a class. -/
def actions (cls : Node) : List Node := cls.children.filter fun m => cls.IsAction m

/-- The control-flow nodes in the actions of a class, at any depth. -/
def actionControlFlow (cls : Node) : Nat :=
  total (cls.actions.map (countBelow fun n => n.kind ∈ Kind.controlFlow))

/-- The parameters of all actions of a class. -/
def actionParameters (cls : Node) : Nat := total (cls.actions.map (·.parameters.length))

/-- The parameters of the first constructor of a class. -/
def dependencies (cls : Node) : Nat :=
  (cls.children.filter (·.kind == .constructorDecl)).head?.elim 0 (·.parameters.length)

/-- The direct methods of a type. -/
def methods (type : Node) : List Node := type.children.filter (·.kind == .methodDecl)

/-- The invocations in the first block of a member, at any depth, whose text contains a token. -/
def databaseCalls (token : String) (m : Node) : Nat :=
  (m.children.filter (·.kind == .block)).head?.elim 0
    (countBelow fun n => n.kind == .invocation && containsToken n.text token)

end Node

namespace Metrics

theorem actionMethods_eq (cls : Node) : actionMethods cls = cls.actions := by
  refine List.filter_congr fun m _ => ?_
  rw [Bool.eq_iff_iff, decide_eq_true_iff, Node.isAction_iff]
  simp [Node.hasModifier, and_assoc]

theorem controlFlowComplexity_eq (cls : Node) : controlFlowComplexity cls = cls.actionControlFlow := by
  have hnodes : controlFlowNodes = Node.countBelow fun n => n.kind ∈ Kind.controlFlow := by
    funext n
    rw [controlFlowNodes, Node.countP_descendants]
    congr 1
    funext m
    exact Kind.isControlFlow_eq m.kind
  rw [controlFlowComplexity, actionMethods_eq, hnodes, Node.actionControlFlow]

theorem actionMetrics_eq (cls : Node) :
    actionMetrics cls = ⟨cls.actions.length, cls.actionParameters, cls.dependencies⟩ := by
  rw [actionMetrics, actionMethods_eq, Node.actionParameters, Node.dependencies, List.head?_filter]
  congr 1
  show _ = Option.elim (cls.members.find? _) 0 _
  cases cls.members.find? (·.kind == .constructorDecl) with
  | none => rfl
  | some constructor => rfl

theorem interfaceMethodCount_eq (interface : Node) :
    interfaceMethodCount interface = interface.methods.length :=
  List.countP_eq_length_filter

end Metrics

/-! ## Limits -/

namespace Limit

/-- Lines of a class. -/
def classLines : Limit where
  kind := .classDecl
  exceeded u n := u.settings.thresholds.maxClassLines < n.span.height
  args u n := [n.name, toString n.span.height, toString u.settings.thresholds.maxClassLines]

/-- Direct methods of an interface. -/
def interfaceMethods : Limit where
  kind := .interfaceDecl
  exceeded u n := u.settings.thresholds.maxInterfaceMethods < n.methods.length
  args u n := [n.name, toString n.methods.length, toString u.settings.thresholds.maxInterfaceMethods]

/-- Control flow in the actions of a class named like a controller. -/
def controlFlow : Limit where
  kind := .classDecl
  exceeded u n := containsToken n.name u.settings.vocabulary.controller ∧
    u.settings.thresholds.maxControlFlow < n.actionControlFlow
  args u n := [n.name, toString n.actionControlFlow, toString u.settings.thresholds.maxControlFlow]

/-- Actions, action parameters and dependencies of a class named like a controller, each with a limit of its
own. -/
def publicSurface : Limit where
  kind := .classDecl
  exceeded u n := containsToken n.name u.settings.vocabulary.controller ∧
    (u.settings.thresholds.maxControllerMethods < n.actions.length ∨
      u.settings.thresholds.maxControllerParameters < n.actionParameters ∨
      u.settings.thresholds.maxConstructorDependencies < n.dependencies)
  args _ n := [n.name, toString n.actions.length, toString n.actionParameters, toString n.dependencies]

end Limit

namespace UnitContext

/-- The methods of one class with too many calls of the connection object, each reported at the class. -/
def laboriousMethodsOf (u : UnitContext) (cls : Node) : List Issue :=
  (cls.methods.filter fun m =>
      u.settings.thresholds.maxDatabaseActions < m.databaseCalls u.settings.vocabulary.databaseAction).map fun m =>
    ⟨cls.identifierSpan, [m.name, Catalog.declaredName u.model cls,
      toString (m.databaseCalls u.settings.vocabulary.databaseAction),
      toString u.settings.thresholds.maxDatabaseActions]⟩

/-- These methods in all classes of a unit that are named like a repository. -/
def laboriousMethods (u : UnitContext) : List Issue :=
  ((u.unit.root.nodesOf .classDecl).filter fun n => containsToken n.name u.settings.vocabulary.repository).flatMap
    u.laboriousMethodsOf

end UnitContext

/-! ## Rules -/

namespace Catalog

theorem classLines_enforced : Limit.classLines.EnforcedBy godClass classTooLong where
  kinds := rfl
  check {c} {ds} h := by
    unfold godClass at h
    dsimp only at h
    cases hlines : c.node.span.lineCount with
    | error e => rw [hlines] at h; cases h
    | ok n =>
        obtain rfl := Span.height_of_lineCount hlines
        rw [hlines] at h
        rw [← h, Limit.classLines]
        show _ = if c.node.span.height ≤ c.thresholds.maxClassLines then _ else _
        rw [ite_le]
        simp only [decide_eq_true_eq]
        rfl

theorem interfaceMethods_enforced : Limit.interfaceMethods.EnforcedBy ambiguousInterface tooManyMethods where
  kinds := rfl
  check {c} {ds} h := by
    unfold ambiguousInterface at h
    dsimp only at h
    rw [Metrics.interfaceMethodCount_eq, ite_le] at h
    rw [← h, Limit.interfaceMethods]
    simp only [decide_eq_true_eq]
    rfl

theorem controlFlow_enforced : Limit.controlFlow.EnforcedBy controllerBrain controlFlowTooLarge where
  kinds := rfl
  check {c} {ds} h := by
    unfold controllerBrain at h
    dsimp only at h
    rw [Metrics.controlFlowComplexity_eq, ite_layer] at h
    rw [← h, Limit.controlFlow]
    simp only [decide_eq_true_eq, Nat.not_le]
    rfl

/-- Three limits are not all kept exactly if one of them is exceeded. -/
theorem publicSurface_enforced : Limit.publicSurface.EnforcedBy promiscuousController tooManyActions where
  kinds := rfl
  check {c} {ds} h := by
    unfold promiscuousController at h
    dsimp only at h
    rw [Metrics.actionMetrics_eq, ite_layer] at h
    rw [← h, Limit.publicSurface]
    simp only [decide_eq_true_eq, Bool.and_eq_true, not_and_or, Nat.not_le, or_assoc]
    rfl

theorem databaseCalls_eq (token : String) (m : Node) :
    m.databaseCalls token = m.body.elim 0 (databaseCalls token) := by
  have hcalls : databaseCalls token = Node.countBelow fun n => n.kind == .invocation && containsToken n.text token :=
    funext fun body => Node.countP_descendants _ body
  rw [Node.databaseCalls, List.head?_filter, hcalls]
  rfl

/-- The methods with a body that makes too many calls are the methods that make too many: a method without a
body makes none. -/
theorem map_methodBodies_calls (cls : Node) (token : String) (limit : Nat) (f : Node → Nat → Issue) :
    ((Metrics.methodBodies cls).filter fun (m, body) =>
        m.kind == .methodDecl && decide (limit < databaseCalls token body)).map
      (fun (m, body) => f m (databaseCalls token body)) =
    (cls.methods.filter fun m => limit < m.databaseCalls token).map fun m => f m (m.databaseCalls token) := by
  unfold Metrics.methodBodies Node.methods Node.members
  induction cls.children with
  | nil => rfl
  | cons m ms ih =>
      by_cases hmethod : m.kind = .methodDecl
      · cases hbody : m.body with
        | none =>
            have hcalls : m.databaseCalls token = 0 := by rw [databaseCalls_eq, hbody]; rfl
            simpa [Kind.isMethodLike, hmethod, hbody, hcalls] using ih
        | some body =>
            have hcalls : m.databaseCalls token = databaseCalls token body := by rw [databaseCalls_eq, hbody]; rfl
            by_cases hlimit : limit < databaseCalls token body
            · simpa [Kind.isMethodLike, hmethod, hbody, hcalls, hlimit] using ih
            · simpa [Kind.isMethodLike, hmethod, hbody, hcalls, hlimit] using ih
      -- constructors and operators have bodies too, but are no methods
      · by_cases hlike : m.kind.isMethodLike
        · cases hbody : m.body with
          | none => simpa [hlike, hmethod, hbody] using ih
          | some body => simpa [hlike, hmethod, hbody] using ih
        · simpa [hlike, hmethod] using ih

/-- This rule reports methods, as many as there are in a class, so it is not a limit on classes. -/
theorem laboriousRepository_raises : laboriousRepository.Raises tooManyDatabaseCalls fun c =>
    if containsToken c.node.name c.unit.settings.vocabulary.repository then
      c.unit.laboriousMethodsOf c.node else [] := by
  refine Rule.raises_in_layer fun c => ?_
  have hissues : c.unit.laboriousMethodsOf c.node = _ :=
    (map_methodBodies_calls c.node c.vocabulary.databaseAction c.thresholds.maxDatabaseActions
      fun m calls => ⟨c.node.identifierSpan, [m.name, declaredName c.model c.node, toString calls,
        toString c.thresholds.maxDatabaseActions]⟩).symm
  have hholds : Layer.repository.holds c.vocabulary c.node.name =
      containsToken c.node.name c.unit.settings.vocabulary.repository := rfl
  unfold laboriousRepository
  dsimp only
  rw [hholds, hissues, List.mapM_map]
  rfl

end Catalog

/-! ## Result -/

/-- **The limits on the structure of types are enforced exactly.** In an analysis of a unit with the built-in
rules, the findings of each of these kinds report, one by one, the nodes that exceed a limit: classes by their
lines, interfaces by their methods, classes named like a controller by the control flow of their actions and by
the number of their actions, parameters and dependencies, and methods of classes named like a repository by
their calls of the connection object. The nodes are taken from the whole tree at any depth, and what is counted
in one of them does not depend on the others. -/
theorem structural_limits_exact {s : Setup} (hrules : s.rules = Catalog.rules) {a : Analyzer}
    (hbuild : s.build = .ok a) {unit : CompilationUnit} {model : Model} {ds : List Diagnostic}
    (hds : a.analyzeUnit unit model = .ok ds) :
    let u := s.unitContext unit model
    s.Reports u Catalog.classTooLong (Limit.classLines.issues u) ds ∧
      s.Reports u Catalog.tooManyMethods (Limit.interfaceMethods.issues u) ds ∧
      s.Reports u Catalog.controlFlowTooLarge (Limit.controlFlow.issues u) ds ∧
      s.Reports u Catalog.tooManyActions (Limit.publicSurface.issues u) ds ∧
      s.Reports u Catalog.tooManyDatabaseCalls u.laboriousMethods ds := by
  obtain ⟨-, rfl⟩ := s.build_eq_ok_iff.mp hbuild
  intro u
  refine ⟨?_, ?_, ?_, ?_, ?_⟩
  · exact Setup.reports_limit hrules (by simp [Catalog.rules]) (List.mem_singleton.mpr rfl)
      Catalog.classLines_enforced hds
  · exact Setup.reports_limit hrules (by simp [Catalog.rules]) (List.mem_singleton.mpr rfl)
      Catalog.interfaceMethods_enforced hds
  · exact Setup.reports_limit hrules (by simp [Catalog.rules]) (List.mem_singleton.mpr rfl)
      Catalog.controlFlow_enforced hds
  · exact Setup.reports_limit hrules (by simp [Catalog.rules]) (List.mem_singleton.mpr rfl)
      Catalog.publicSurface_enforced hds
  · rw [UnitContext.laboriousMethods, Setup.flatMap_filter_eq]
    exact Setup.reports_nodes hrules (by simp [Catalog.rules]) (List.mem_singleton.mpr rfl) rfl
      (fun u n => if containsToken n.name u.settings.vocabulary.repository then u.laboriousMethodsOf n else [])
      Catalog.laboriousRepository_raises hds

namespace Sample

/-- The built-in rules with low limits. -/
def strict : Setup where
  rules := Catalog.rules
  config :=
    { thresholds :=
        { maxClassLines := 5, maxControlFlow := 2, maxControllerParameters := 1, maxInterfaceMethods := 1,
          maxDatabaseActions := 1 } }

theorem build_strict : strict.build = .ok strict.analyzer :=
  strict.build_eq_ok_iff.mpr ⟨by decide +kernel, rfl⟩

/-- A controller with an action and a repository inside it, and an interface. -/
def nested : CompilationUnit where
  path := "Pedidos.cs"
  root := .mk { kind := .compilationUnit }
    [.mk { kind := .classDecl, identifier := some "PedidoController", span := .lines 1 9 }
      [.mk { kind := .methodDecl, identifier := some "Ver", modifiers := [.isPublic], parameters := ["a", "b"] }
        [.mk { kind := .block } [.mk { kind := .whileStatement } [.leaf .ifStatement], .leaf .conditional]],
       .mk { kind := .classDecl, identifier := some "DetalleDal", span := .lines 3 8 }
        [.mk { kind := .methodDecl, identifier := some "Guardar" }
          [.mk { kind := .block }
            [.mk { kind := .ifStatement } [(Node.leaf .invocation).withText "Vgo_Conexion.Abrir()"],
             (Node.leaf .invocation).withText "vgo_conexion.Cerrar()"]]]],
     .mk { kind := .interfaceDecl, identifier := some "IPedido" } [.leaf .methodDecl, .leaf .methodDecl]]

end Sample

/-- The repository is reported although it stands in the controller, and neither counts for the other. -/
theorem structural_limits_exact_sample :
    Sample.strict.build = .ok Sample.strict.analyzer ∧
    ∃ ds, Sample.strict.analyzer.analyzeUnit Sample.nested Sample.model = .ok ds ∧
      ds.filter (·.code == "RA16-001") =
        [Sample.issued Catalog.classTooLong "Pedidos.cs" 1 1 "Class 'PedidoController' has 9 lines (limit 5)",
         Sample.issued Catalog.classTooLong "Pedidos.cs" 3 1 "Class 'DetalleDal' has 6 lines (limit 5)"] ∧
      ds.filter (·.code == "RA14-001") =
        [Sample.issued Catalog.tooManyMethods "Pedidos.cs" 0 0 "Interface 'IPedido' declares 2 methods (limit 1)"] ∧
      ds.filter (·.code == "RA07-001") =
        [Sample.issued Catalog.controlFlowTooLarge "Pedidos.cs" 1 1
          "Controller 'PedidoController' has 3 control-flow statements in its actions (limit 2)"] ∧
      ds.filter (·.code == "RA08-001") =
        [Sample.issued Catalog.tooManyActions "Pedidos.cs" 1 1
          "Controller 'PedidoController' has 1 actions, 2 action parameters and 0 constructor dependencies"] ∧
      ds.filter (·.code == "RA12-001") =
        [Sample.issued Catalog.tooManyDatabaseCalls "Pedidos.cs" 3 1
          "Method 'Guardar' of repository 'DetalleDal' makes 2 database calls (limit 1)"] := by
  have hall : ∀ c ∈ Sample.strict.calls Sample.nested Sample.model, ∃ ds, c.run = .ok ds :=
    Call.exists_ok_of_all_isOk (by decide +kernel)
  have hds := Sample.strict.analyzeUnit_of_all_ok hall
  have hactive := Sample.strict.activates_of_unrestricted rfl rfl
  obtain ⟨hlines, hmethods, hflow, hsurface, hcalls⟩ := structural_limits_exact rfl Sample.build_strict hds
  refine ⟨Sample.build_strict, _, hds, ?_, ?_, ?_, ?_, ?_⟩
  · exact hlines.filter_eq (hactive _) (by decide +kernel) (by decide +kernel)
  · exact hmethods.filter_eq (hactive _) (by decide +kernel) (by decide +kernel)
  · exact hflow.filter_eq (hactive _) (by decide +kernel) (by decide +kernel)
  · exact hsurface.filter_eq (hactive _) (by decide +kernel) (by decide +kernel)
  · exact hcalls.filter_eq (hactive _) (by decide +kernel) (by decide +kernel)

end LayerLint
