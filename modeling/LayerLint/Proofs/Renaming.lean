import LayerLint.Proofs.Resolution

/-!
# `Proofs.Renaming` — ids are opaque

A node's id is a key into the symbol table and nothing else; a symbol's id is compared with other symbols' ids
and nothing else. So a tree may be given other ids, and its symbols too, as long as distinct ids stay distinct.
The argument does not speak of tables: it is enough that a second host answers about the renamed nodes as the
first one does about the nodes, wherever the built-in rules ask (`Model.Corresponds`).

## Contents
- **Renaming.** `Node.rename`, `Symbol.rename`, `SymbolTable.rename`, and the lemmas that push renaming
  through what rules read of a tree.
- **Correspondence.** `Model.Corresponds`: two hosts agree, up to renaming, on what is asked.
- **Rules.** `Rule.IdBlind`: a rule answers alike for hosts that correspond; one lemma for each built-in rule.
- **Result.** `analyzeUnit_rename`, and from it `renaming_ids_changes_nothing`.
-/

namespace LayerLint

/-! ## Renaming -/

namespace Node

mutual

/-- The tree with every node's id replaced. -/
def rename (f : Id → Id) : Node → Node
  | mk info children => mk { info with id := f info.id } (renameAll f children)

/-- The forest with every node's id replaced. -/
def renameAll (f : Id → Id) : List Node → List Node
  | [] => []
  | n :: ns => n.rename f :: renameAll f ns

end

variable (f : Id → Id)

theorem renameAll_eq_map (ns : List Node) : renameAll f ns = ns.map (rename f) := by
  induction ns with
  | nil => rfl
  | cons n ns ih => rw [renameAll, ih, List.map_cons]

theorem rename_mk (info : NodeInfo) (cs : List Node) :
    (mk info cs).rename f = mk { info with id := f info.id } (cs.map (rename f)) := by
  rw [rename, renameAll_eq_map]

@[simp] theorem id_rename (n : Node) : (n.rename f).id = f n.id := by cases n; rfl

@[simp] theorem kind_rename (n : Node) : (n.rename f).kind = n.kind := by cases n; rfl

@[simp] theorem span_rename (n : Node) : (n.rename f).span = n.span := by cases n; rfl

@[simp] theorem name_rename (n : Node) : (n.rename f).name = n.name := by cases n; rfl

@[simp] theorem text_rename (n : Node) : (n.rename f).text = n.text := by cases n; rfl

@[simp] theorem identifierSpan_rename (n : Node) : (n.rename f).identifierSpan = n.identifierSpan := by
  cases n
  rfl

@[simp] theorem parameters_rename (n : Node) : (n.rename f).parameters = n.parameters := by cases n; rfl

@[simp] theorem hasModifier_rename (n : Node) (m : Modifier) :
    (n.rename f).hasModifier m = n.hasModifier m := by
  cases n
  rfl

@[simp] theorem children_rename (n : Node) : (n.rename f).children = n.children.map (rename f) := by
  cases n
  rw [rename_mk]
  rfl

@[simp] theorem members_rename (n : Node) : (n.rename f).members = n.members.map (rename f) :=
  children_rename f n

section

variable {f} {p : Node → Bool} (hp : ∀ n, p (n.rename f) = p n) (ns : List Node)
include hp

/-- What does not depend on ids finds the same nodes in a renamed list. -/
theorem filter_rename : (ns.map (rename f)).filter p = (ns.filter p).map (rename f) := by
  rw [List.filter_map]
  congr 2
  funext n
  exact hp n

theorem find?_rename : (ns.map (rename f)).find? p = (ns.find? p).map (rename f) := by
  rw [List.find?_map]
  congr 2
  funext n
  exact hp n

theorem countP_rename : (ns.map (rename f)).countP p = ns.countP p := by
  rw [List.countP_map]
  congr 1
  funext n
  exact hp n

end

@[simp] theorem body_rename (n : Node) : (n.rename f).body = n.body.map (rename f) := by
  unfold body
  rw [children_rename, find?_rename (by simp)]

@[simp] theorem receiver_rename (n : Node) : (n.rename f).receiver = n.receiver.map (rename f) := by
  unfold receiver
  rw [kind_rename, children_rename, List.head?_map]
  split <;> rfl

mutual

theorem preorder_rename : ∀ n : Node, (n.rename f).preorder = n.preorder.map (rename f)
  | mk info cs => by
      rw [rename, preorder, preorder, List.map_cons, preorderAll_renameAll cs, rename]

theorem preorderAll_renameAll : ∀ ns : List Node,
    preorderAll (renameAll f ns) = (preorderAll ns).map (rename f)
  | [] => rfl
  | n :: ns => by
      rw [renameAll, preorderAll, preorderAll, List.map_append, preorder_rename n, preorderAll_renameAll ns]

end

@[simp] theorem descendants_rename (n : Node) : (n.rename f).descendants = n.descendants.map (rename f) := by
  rw [descendants_eq, descendants_eq, children_rename, ← renameAll_eq_map, preorderAll_renameAll]

mutual

/-- Renaming every id to itself changes nothing. -/
theorem rename_self : ∀ n : Node, n.rename (fun i => i) = n
  | mk info cs => by rw [rename, renameAll_self cs]

theorem renameAll_self : ∀ ns : List Node, renameAll (fun i => i) ns = ns
  | [] => rfl
  | n :: ns => by rw [renameAll, rename_self n, renameAll_self ns]

end

end Node

/-- The type with every symbol id replaced. -/
def TypeInfo.rename (g : Id → Id) (t : TypeInfo) : TypeInfo :=
  { t with id := g t.id, interfaces := t.interfaces.map g }

/-- The symbol with every symbol id replaced, those of its containing type included. -/
def Symbol.rename (g : Id → Id) (s : Symbol) : Symbol :=
  { s with id := g s.id, containingType := s.containingType.map (·.rename g) }

theorem TypeInfo.rename_self (t : TypeInfo) : t.rename (fun i => i) = t := by
  unfold rename
  rw [List.map_id']

theorem Symbol.rename_self (s : Symbol) : s.rename (fun i => i) = s := by
  unfold rename
  simp only [TypeInfo.rename_self, Option.map_id']

/-- Distinct interfaces stay distinct, so a type implements the same ones. -/
theorem TypeInfo.implements_rename {g : Id → Id} (hg : Function.Injective g) (t : TypeInfo) (interface : Id) :
    (t.rename g).implements (g interface) = t.implements interface := by
  rw [Bool.eq_iff_iff]
  simp [implements, rename, hg.eq_iff]

/-- The unit with every node's id replaced. -/
def CompilationUnit.rename (f : Id → Id) (u : CompilationUnit) : CompilationUnit :=
  { u with root := u.root.rename f }

@[simp] theorem CompilationUnit.path_rename (f : Id → Id) (u : CompilationUnit) :
    (u.rename f).path = u.path := rfl

theorem CompilationUnit.rename_self (u : CompilationUnit) : u.rename (fun i => i) = u := by
  unfold rename
  rw [Node.rename_self]

/-- The map with its keys replaced and its values changed. -/
def IdMap.rename {α : Type} (f : Id → Id) (v : α → α) (m : IdMap α) : IdMap α :=
  ofList (m.entries.map fun e => (f e.1, v e.2))

/-- **A replaced key has the changed value** of the key that it replaces. -/
theorem IdMap.get?_rename {α : Type} {f : Id → Id} (hf : Function.Injective f) (v : α → α) (m : IdMap α)
    (k : Id) : (m.rename f v).get? (f k) = (m.get? k).map v := by
  -- distinct keys stay distinct, so no entry takes the place of another
  have hkeys : ((m.entries.map fun e => (f e.1, v e.2)).map (·.1)).Nodup := by
    rw [List.map_map]
    have hnodup : ((m.entries.map (·.1)).map f).Nodup := m.nodup_ids.map hf
    rwa [List.map_map] at hnodup
  apply Option.ext
  intro a
  rw [rename, ofList, get?_foldl_insert hkeys, get?_empty, Option.or_none, find?_eq_some_iff hkeys,
    Option.map_eq_some_iff, List.mem_map]
  constructor
  · rintro ⟨⟨j, b⟩, hentry, heq⟩
    obtain ⟨hkey, rfl⟩ := Prod.mk.inj heq
    obtain rfl : j = k := hf hkey
    exact ⟨b, get?_eq_some_iff.mpr hentry, rfl⟩
  · rintro ⟨b, hb, rfl⟩
    exact ⟨(k, b), get?_eq_some_iff.mp hb, rfl⟩

/-- The table with every key replaced by `f` and every symbol id by `g`. -/
def SymbolTable.rename (f g : Id → Id) (t : SymbolTable) : SymbolTable where
  symbols := t.symbols.rename f (·.rename g)
  types := t.types.rename f (·.rename g)
  constants := t.constants.rename f fun v => v
  declarations := t.declarations.rename f (·.rename g)

/-- What a check sees of a renamed unit, with another host. -/
def NodeContext.rename (f : Id → Id) (m : Model) (c : NodeContext) : NodeContext where
  unit := ⟨c.unit.unit.rename f, m, c.unit.settings⟩
  node := c.node.rename f
  ancestors := c.ancestors.map (Node.rename f)

namespace NodeContext

variable (f : Id → Id) (m : Model) (c : NodeContext)

@[simp] theorem node_rename : (c.rename f m).node = c.node.rename f := rfl

@[simp] theorem model_rename : (c.rename f m).model = m := rfl

@[simp] theorem vocabulary_rename : (c.rename f m).vocabulary = c.vocabulary := rfl

@[simp] theorem thresholds_rename : (c.rename f m).thresholds = c.thresholds := rfl

@[simp] theorem unit_rename : (c.rename f m).unit.unit = c.unit.unit.rename f := rfl

@[simp] theorem loweredText_rename : (c.rename f m).unit.loweredText = c.unit.loweredText := rfl

@[simp] theorem identifierLocation_rename (n : Node) :
    (c.rename f m).identifierLocation (n.rename f) = c.identifierLocation n := by
  unfold identifierLocation
  rw [Node.identifierSpan_rename]
  rfl

@[simp] theorem nodeLocation_rename (n : Node) :
    (c.rename f m).nodeLocation (n.rename f) = c.nodeLocation n := by
  unfold nodeLocation
  rw [Node.span_rename]
  rfl

@[simp] theorem enclosingClass_rename :
    (c.rename f m).enclosingClass = c.enclosingClass.map (Node.rename f) := by
  unfold enclosingClass
  rw [node_rename, Node.kind_rename]
  split
  · rfl
  · show ((c.ancestors.map (Node.rename f)).reverse.find? _) = _
    rw [← List.map_reverse, Node.find?_rename (by simp)]

end NodeContext

/-! ## Correspondence -/

/-- **The hosts correspond on a tree**: about the renamed nodes the second answers, up to renaming, what the
first answers about the nodes. Only what the built-in rules ask matters: the symbols of identifiers and member
accesses, the types of members of classes and of what stands under a member access, the values of literals, and
what classes and their members declare. -/
structure Model.Corresponds (f g : Id → Id) (m m' : Model) (root : Node) : Prop where
  symbol : ∀ n ∈ root.preorder, n.kind = .identifierName ∨ n.kind = .memberAccess →
    m'.symbol (n.rename f) = (m.symbol n).map (·.rename g)
  type : ∀ p ∈ root.preorder, p.kind = .classDecl ∨ p.kind = .memberAccess → ∀ n ∈ p.children,
    m'.type (n.rename f) = (m.type n).map (·.rename g)
  constant : ∀ n ∈ root.preorder, n.kind = .literal → m'.constant (n.rename f) = m.constant n
  declared : ∀ p ∈ root.preorder, p.kind = .classDecl → ∀ n ∈ p :: p.children,
    m'.declared (n.rename f) = (m.declared n).map (·.rename g)

theorem Model.Corresponds.below {f g : Id → Id} {m m' : Model} {root n : Node} (h : m.Corresponds f g m' root)
    (hn : n ∈ root.preorder) : m.Corresponds f g m' n where
  symbol t ht := h.symbol t (Node.preorder_trans hn ht)
  type p hp := h.type p (Node.preorder_trans hn hp)
  constant t ht := h.constant t (Node.preorder_trans hn ht)
  declared p hp := h.declared p (Node.preorder_trans hn hp)

/-- A renamed table corresponds to the table, on any tree. -/
theorem SymbolTable.corresponds_rename {f : Id → Id} (hf : Function.Injective f) (g : Id → Id)
    (t : SymbolTable) (root : Node) : t.model.Corresponds f g (t.rename f g).model root where
  symbol n _ _ := by
    show (t.rename f g).symbols.get? (n.rename f).id = _
    rw [Node.id_rename]
    exact IdMap.get?_rename hf _ _ _
  type p _ _ n _ := by
    show (t.rename f g).types.get? (n.rename f).id = _
    rw [Node.id_rename]
    exact IdMap.get?_rename hf _ _ _
  constant n _ _ := by
    show (t.rename f g).constants.get? (n.rename f).id = t.constants.get? n.id
    rw [Node.id_rename]
    exact (IdMap.get?_rename hf _ _ _).trans Option.map_id_apply
  declared p _ _ n _ := by
    show (t.rename f g).declarations.get? (n.rename f).id = _
    rw [Node.id_rename]
    exact IdMap.get?_rename hf _ _ _

/-! ## Counts and imports -/

namespace Metrics

variable (f : Id → Id) (cls : Node)

theorem actionMethods_rename : actionMethods (cls.rename f) = (actionMethods cls).map (Node.rename f) := by
  unfold actionMethods
  simp only [Node.name_rename]
  rw [Node.members_rename, Node.filter_rename (by simp)]

@[simp] theorem controlFlowNodes_rename (n : Node) : controlFlowNodes (n.rename f) = controlFlowNodes n := by
  unfold controlFlowNodes
  rw [Node.descendants_rename, Node.countP_rename (by simp)]

@[simp] theorem controlFlowComplexity_rename :
    controlFlowComplexity (cls.rename f) = controlFlowComplexity cls := by
  simp [controlFlowComplexity, actionMethods_rename, Function.comp_def]

@[simp] theorem actionMetrics_rename : actionMetrics (cls.rename f) = actionMetrics cls := by
  have hconstructor : (cls.rename f).members.find? (·.kind == .constructorDecl) =
      (cls.members.find? (·.kind == .constructorDecl)).map (Node.rename f) := by
    rw [Node.members_rename, Node.find?_rename (by simp)]
  unfold actionMetrics
  rw [actionMethods_rename, hconstructor]
  cases cls.members.find? (·.kind == .constructorDecl) with
  | none => simp [Function.comp_def]
  | some constructor => simp [Function.comp_def]

@[simp] theorem interfaceMethodCount_rename : interfaceMethodCount (cls.rename f) = interfaceMethodCount cls := by
  unfold interfaceMethodCount
  rw [Node.members_rename, Node.countP_rename (by simp)]

theorem methodBodies_rename :
    methodBodies (cls.rename f) = (methodBodies cls).map fun (m, body) => (m.rename f, body.rename f) := by
  unfold methodBodies
  rw [Node.members_rename, Node.filter_rename (by simp), List.filterMap_map, List.map_filterMap]
  congr 1
  funext m
  simp [Function.comp_def]

/-- What is inside the body of a member is below the class. -/
theorem mem_preorder_of_body {m body t : Node} (hbody : (m, body) ∈ methodBodies cls)
    (ht : t ∈ body.descendants) : t ∈ cls.preorder := by
  obtain ⟨member, hmember, heq⟩ := List.mem_filterMap.mp hbody
  obtain ⟨b, hb, heq⟩ := Option.map_eq_some_iff.mp heq
  obtain ⟨rfl, rfl⟩ := Prod.mk.inj heq
  have hchild : member ∈ cls.children := (List.mem_filter.mp hmember).1
  have hblock : b ∈ member.children := List.mem_of_find?_eq_some hb
  rw [Node.descendants_eq, Node.mem_preorderAll] at ht
  obtain ⟨c, hc, ht⟩ := ht
  exact Node.mem_preorder_of_child hchild (Node.mem_preorder_of_child hblock (Node.mem_preorder_of_child hc ht))

end Metrics

namespace Catalog

@[simp] theorem databaseCalls_rename (f : Id → Id) (token : String) (body : Node) :
    databaseCalls token (body.rename f) = databaseCalls token body := by
  unfold databaseCalls
  rw [Node.descendants_rename, Node.countP_rename (by simp)]

@[simp] theorem dataAccessImports_rename (f : Id → Id) (u : CompilationUnit) :
    dataAccessImports (u.rename f) = dataAccessImports u := by
  have husings : (u.rename f).usingDirectives = u.usingDirectives.map (Node.rename f) := by
    show ((u.root.rename f).descendants.filter _) = _
    rw [Node.descendants_rename, Node.filter_rename (by simp)]
    rfl
  unfold dataAccessImports
  rw [husings, List.map_map]
  simp only [Function.comp_def, Node.text_rename]

end Catalog

theorem Catalog.bodyLiterals_rename (f : Id → Id) (cls : Node) :
    bodyLiterals (cls.rename f) = (bodyLiterals cls).map (Node.rename f) := by
  unfold bodyLiterals
  rw [Metrics.methodBodies_rename, List.flatMap_map, List.map_flatMap]
  congr 1
  funext ⟨member, body⟩
  show ((body.rename f).descendants.filter (·.kind == .literal)) = _
  rw [Node.descendants_rename, Node.filter_rename (by simp)]

/-! ## Questions to hosts -/

section

variable {f g : Id → Id} {m m' : Model} {cls : Node} (h : m.Corresponds f g m' cls)
include h

theorem Model.Corresponds.declared_self (hcls : cls.kind = .classDecl) :
    m'.declared (cls.rename f) = (m.declared cls).map (·.rename g) :=
  h.declared cls cls.mem_preorder_self hcls cls List.mem_cons_self

theorem Model.Corresponds.declared_member (hcls : cls.kind = .classDecl) {n : Node} (hn : n ∈ cls.members) :
    m'.declared (n.rename f) = (m.declared n).map (·.rename g) :=
  h.declared cls cls.mem_preorder_self hcls n (List.mem_cons_of_mem _ hn)

theorem Scan.firstHttpMember?_rename (hcls : cls.kind = .classDecl) :
    firstHttpMember? m' (cls.rename f) = (firstHttpMember? m cls).map (Node.rename f) := by
  unfold firstHttpMember?
  rw [Node.members_rename, List.find?_map, ← List.head?_filter, ← List.head?_filter]
  congr 2
  apply List.filter_congr
  intro n hn
  rw [Function.comp_apply, h.declared_member hcls hn, Option.any_map]
  rfl

theorem Scan.referencesDataAccess_rename (hcls : cls.kind = .classDecl) {n : Node} (hn : n ∈ cls.members) :
    referencesDataAccess m' (n.rename f) = referencesDataAccess m n := by
  have htype : m'.type (n.rename f) = (m.type n).map (·.rename g) :=
    h.type cls cls.mem_preorder_self (.inl hcls) n hn
  unfold referencesDataAccess
  rw [htype, h.declared_member hcls hn, Option.bind_map, Option.any_map]
  rfl

theorem Scan.any_referencesDataAccess_rename (hcls : cls.kind = .classDecl) :
    (cls.rename f).members.any (referencesDataAccess m') = cls.members.any (referencesDataAccess m) := by
  rw [Node.members_rename, List.any_map, Bool.eq_iff_iff, List.any_eq_true, List.any_eq_true]
  apply exists_congr
  intro n
  apply and_congr_right
  intro hn
  rw [Function.comp_apply, referencesDataAccess_rename h hcls hn]

namespace Catalog

theorem declaredName_rename (hcls : cls.kind = .classDecl) :
    declaredName m' (cls.rename f) = declaredName m cls := by
  unfold declaredName
  rw [h.declared_self hcls, Node.name_rename]
  cases m.declared cls with
  | none => rfl
  | some s => rfl

theorem excessiveLogic?_rename {limit : Nat} {literal : Node} (hliteral : literal ∈ bodyLiterals cls) :
    excessiveLogic? m' limit (literal.rename f) = excessiveLogic? m limit literal := by
  have hsite := site_of_mem_bodyLiterals hliteral
  have hkind : literal.kind = .literal := by
    obtain ⟨⟨_, _⟩, -, ht⟩ := List.mem_flatMap.mp hliteral
    exact beq_iff_eq.mp (List.mem_filter.mp ht).2
  unfold excessiveLogic?
  rw [h.constant literal hsite.mem_preorder hkind]

theorem entity?_rename {token : String} {n : Node} (hn : n ∈ cls.preorder) (hkind : n.kind = .identifierName) :
    entity? m' token (n.rename f) = (entity? m token n).map g := by
  unfold entity?
  rw [h.symbol n hn (.inl hkind)]
  cases m.symbol n with
  | none => rfl
  | some s =>
      show (if s.kind == .namedType && startsWithToken s.name token then some (g s.id) else none) =
        (if s.kind == .namedType && startsWithToken s.name token then some s.id else none).map g
      split <;> rfl

theorem entityReferences_rename (token : String) :
    entityReferences m' token (cls.rename f) = (entityReferences m token cls).map g := by
  unfold entityReferences
  rw [Metrics.methodBodies_rename, List.flatMap_map, List.map_flatMap]
  apply List.flatMap_congr
  rintro ⟨member, body⟩ hbody
  show ((body.rename f).descendants.filter (·.kind == .identifierName)).filterMap _ = _
  rw [Node.descendants_rename, Node.filter_rename (by simp), List.filterMap_map, List.map_filterMap]
  apply List.filterMap_congr
  intro n hn
  obtain ⟨hn, hkind⟩ := List.mem_filter.mp hn
  exact entity?_rename h (Metrics.mem_preorder_of_body cls hbody hn) (beq_iff_eq.mp hkind)

/-- Distinct entities stay distinct, so there are as many. -/
theorem length_entities_rename (hg : Function.Injective g) (token : String) :
    (entities m' token (cls.rename f)).length = (entities m token cls).length := by
  have himage : ((entityReferences m token cls).map g).toFinset =
      (entityReferences m token cls).toFinset.image g := by
    ext id
    simp
  rw [length_entities, length_entities, entityReferences_rename h, himage, Finset.card_image_of_injective _ hg]

end Catalog

end

namespace Catalog

/-- The coupling with every symbol id replaced. -/
def Coupling.rename (g : Id → Id) (k : Coupling) : Coupling where
  property := k.property.rename g
  container := k.container.rename g
  interface := k.interface.rename g

theorem coupling?_rename {f g : Id → Id} (hg : Function.Injective g) {m m' : Model} {access : Node}
    (h : m.Corresponds f g m' access) (haccess : access.kind = .memberAccess) :
    coupling? m' (access.rename f) = (coupling? m access).map (Coupling.rename g) := by
  have hsymbol : m'.symbol (access.rename f) = (m.symbol access).map (·.rename g) :=
    h.symbol access access.mem_preorder_self (.inr haccess)
  have htype : ∀ r, access.receiver = some r → m'.type (r.rename f) = (m.type r).map (·.rename g) := by
    intro r hr
    refine h.type access access.mem_preorder_self (.inr haccess) r ?_
    rw [Node.receiver, if_pos haccess] at hr
    exact List.mem_of_head? hr
  -- a coupling compares ids in one place only, where the class is asked if it implements the interface
  apply Option.ext
  intro k'
  rw [coupling?_eq_some_iff, Option.map_eq_some_iff, hsymbol, Node.receiver_rename]
  simp only [coupling?_eq_some_iff]
  constructor
  · rintro ⟨hs, hkind, hcontainer, hclass, r', hr', ht, hinterface, himplements⟩
    obtain ⟨property, hproperty, hproperty'⟩ := Option.map_eq_some_iff.mp hs
    rw [← hproperty'] at hkind hcontainer
    obtain ⟨container, hcontainer, hcontainer'⟩ := Option.map_eq_some_iff.mp hcontainer
    obtain ⟨r, hr, rfl⟩ := Option.map_eq_some_iff.mp hr'
    rw [htype r hr] at ht
    obtain ⟨interface, ht, hinterface'⟩ := Option.map_eq_some_iff.mp ht
    rw [← hcontainer', ← hinterface'] at himplements
    rw [← hcontainer'] at hclass
    rw [← hinterface'] at hinterface
    refine ⟨⟨property, container, interface⟩, ⟨hproperty, hkind, hcontainer, hclass, r, hr, ht, hinterface, ?_⟩, ?_⟩
    · exact (container.implements_rename hg interface.id).symm.trans himplements
    · cases k'
      cases hproperty'
      cases hcontainer'
      cases hinterface'
      rfl
  · rintro ⟨k, ⟨hs, hkind, hcontainer, hclass, r, hr, ht, hinterface, himplements⟩, rfl⟩
    refine ⟨?_, hkind, ?_, hclass, r.rename f, ?_, ?_, hinterface, ?_⟩
    · rw [hs]
      rfl
    · show k.property.containingType.map (·.rename g) = some (k.container.rename g)
      rw [hcontainer]
      rfl
    · rw [hr]
      rfl
    · rw [htype r hr, ht]
      rfl
    · exact (k.container.implements_rename hg k.interface.id).trans himplements

end Catalog

/-! ## Rules -/

/-- **Ids are opaque to the rule**: on a node of a kind that it is dispatched on, it answers alike for two hosts
that correspond. -/
def Rule.IdBlind (r : Rule) : Prop :=
  ∀ {f g : Id → Id} {c : NodeContext} {m : Model}, Function.Injective g → c.node.kind ∈ r.kinds →
    c.model.Corresponds f g m c.node → r.check (c.rename f m) = r.check c

namespace Catalog

theorem modelView_idBlind : modelView.IdBlind := by
  intro f g c m _ _ _
  simp [modelView]

theorem modelController_idBlind : modelController.IdBlind := by
  intro f g c m _ hkind h
  have hcls : c.node.kind = .classDecl := List.mem_singleton.mp hkind
  unfold modelController
  simp only [NodeContext.node_rename, NodeContext.model_rename, NodeContext.vocabulary_rename, Node.name_rename,
    Scan.firstHttpMember?_rename h hcls]
  cases Scan.firstHttpMember? c.model c.node with
  | none => rfl
  | some member => simp

theorem viewModel_idBlind : viewModel.IdBlind := by
  intro f g c m _ hkind h
  have hcls : c.node.kind = .classDecl := List.mem_singleton.mp hkind
  unfold viewModel
  simp only [NodeContext.node_rename, NodeContext.model_rename, NodeContext.vocabulary_rename,
    NodeContext.unit_rename, NodeContext.loweredText_rename, NodeContext.identifierLocation_rename,
    CompilationUnit.path_rename, Node.name_rename, Scan.any_referencesDataAccess_rename h hcls]

theorem viewController_idBlind : viewController.IdBlind := by
  intro f g c m _ hkind h
  have hcls : c.node.kind = .classDecl := List.mem_singleton.mp hkind
  unfold viewController
  simp only [NodeContext.node_rename, NodeContext.model_rename, NodeContext.vocabulary_rename,
    NodeContext.unit_rename, CompilationUnit.path_rename, Node.name_rename, Scan.firstHttpMember?_rename h hcls]
  cases Scan.firstHttpMember? c.model c.node with
  | none => rfl
  | some member => simp

theorem controllerView_idBlind : controllerView.IdBlind := by
  intro f g c m _ _ _
  simp [controllerView]

theorem controllerModel_idBlind : controllerModel.IdBlind := by
  intro f g c m _ hkind h
  have hcls : c.node.kind = .classDecl := List.mem_singleton.mp hkind
  unfold controllerModel
  simp only [NodeContext.node_rename, NodeContext.model_rename, NodeContext.vocabulary_rename,
    NodeContext.unit_rename, NodeContext.loweredText_rename, NodeContext.identifierLocation_rename,
    CompilationUnit.path_rename, Node.name_rename, Scan.any_referencesDataAccess_rename h hcls]

theorem controllerBrain_idBlind : controllerBrain.IdBlind := by
  intro f g c m _ _ _
  simp [controllerBrain]

theorem promiscuousController_idBlind : promiscuousController.IdBlind := by
  intro f g c m _ _ _
  simp [promiscuousController]

theorem meddlingService_idBlind : meddlingService.IdBlind := by
  intro f g c m _ _ _
  simp [meddlingService]

theorem brainRepository_idBlind : brainRepository.IdBlind := by
  intro f g c m _ _ h
  have hfound : ∀ limit, ((bodyLiterals (c.node.rename f)).filterMap fun literal =>
        (excessiveLogic? m limit literal).map (literal, ·)) =
      ((bodyLiterals c.node).filterMap fun literal =>
        (excessiveLogic? c.model limit literal).map (literal, ·)).map fun (literal, logic) =>
          (literal.rename f, logic) := by
    intro limit
    rw [bodyLiterals_rename, List.filterMap_map, List.map_filterMap]
    apply List.filterMap_congr
    intro literal hliteral
    rw [Function.comp_apply, excessiveLogic?_rename h hliteral, Option.map_map]
    rfl
  unfold brainRepository
  simp only [NodeContext.node_rename, NodeContext.model_rename, NodeContext.vocabulary_rename,
    NodeContext.thresholds_rename, Node.name_rename, hfound, List.mapM_map, Function.comp_def,
    NodeContext.nodeLocation_rename]

theorem bigRepository_idBlind : bigRepository.IdBlind := by
  intro f g c m hg hkind h
  have hcls : c.node.kind = .classDecl := List.mem_singleton.mp hkind
  unfold bigRepository
  simp [length_entities_rename h hg, declaredName_rename h hcls]

theorem laboriousRepository_idBlind : laboriousRepository.IdBlind := by
  intro f g c m _ hkind h
  have hcls : c.node.kind = .classDecl := List.mem_singleton.mp hkind
  unfold laboriousRepository
  simp only [NodeContext.node_rename, NodeContext.model_rename, NodeContext.vocabulary_rename,
    NodeContext.thresholds_rename, Node.name_rename, Metrics.methodBodies_rename, List.filter_map, List.mapM_map,
    Function.comp_def, Node.kind_rename, NodeContext.identifierLocation_rename, databaseCalls_rename,
    declaredName_rename h hcls]

theorem abstractionWithoutDecoupling_idBlind : abstractionWithoutDecoupling.IdBlind := by
  intro f g c m hg hkind h
  have haccess : c.node.kind = .memberAccess := List.mem_singleton.mp hkind
  unfold abstractionWithoutDecoupling
  simp only [NodeContext.node_rename, NodeContext.model_rename, coupling?_rename hg h haccess,
    NodeContext.enclosingClass_rename, NodeContext.nodeLocation_rename]
  cases coupling? c.model c.node with
  | none => rfl
  | some k => cases c.enclosingClass <;> simp [Coupling.rename, TypeInfo.rename, Symbol.rename]

theorem ambiguousInterface_idBlind : ambiguousInterface.IdBlind := by
  intro f g c m _ _ _
  simp [ambiguousInterface]

theorem architectureViolation_idBlind : architectureViolation.IdBlind := by
  intro f g c m _ _ _
  simp [architectureViolation]

theorem godClass_idBlind : godClass.IdBlind := by
  intro f g c m _ _ _
  simp [godClass]

/-- **Ids are opaque to every built-in rule.** -/
theorem idBlind_of_mem {r : Rule} (hr : r ∈ rules) : r.IdBlind := by
  simp only [rules, List.mem_cons, List.not_mem_nil, or_false] at hr
  rcases hr with rfl | rfl | rfl | rfl | rfl | rfl | rfl | rfl | rfl | rfl | rfl | rfl | rfl | rfl | rfl | rfl
  · exact modelView_idBlind
  · exact modelController_idBlind
  · exact viewModel_idBlind
  · exact viewController_idBlind
  · exact controllerView_idBlind
  · exact controllerModel_idBlind
  · exact controllerBrain_idBlind
  · exact promiscuousController_idBlind
  · exact meddlingService_idBlind
  · exact brainRepository_idBlind
  · exact bigRepository_idBlind
  · exact laboriousRepository_idBlind
  · exact abstractionWithoutDecoupling_idBlind
  · exact ambiguousInterface_idBlind
  · exact architectureViolation_idBlind
  · exact godClass_idBlind

end Catalog

/-! ## Result -/

/-- The occurrence with every node's id replaced. -/
def Occurrence.rename (f : Id → Id) (o : Occurrence) : Occurrence :=
  ⟨o.ancestors.map (Node.rename f), o.node.rename f⟩

mutual

/-- A renamed tree has the renamed occurrences. -/
theorem Node.occurrences_rename (f : Id → Id) : ∀ n : Node,
    (n.rename f).occurrences = n.occurrences.map (·.rename f)
  | .mk info cs => by
      have hself : (Node.mk info cs).rename f = .mk { info with id := f info.id } (cs.map (Node.rename f)) :=
        Node.rename_mk f info cs
      rw [Node.occurrences_mk, hself, Node.occurrences_mk, List.map_cons, List.map_flatMap]
      congr 1
      · rw [Occurrence.rename, hself]
        rfl
      · rw [← hself]
        exact Node.flatMap_occurrences_rename f (.mk info cs) cs

theorem Node.flatMap_occurrences_rename (f : Id → Id) (parent : Node) : ∀ ns : List Node,
    ((ns.map (Node.rename f)).flatMap fun c => c.occurrences.map (·.under (parent.rename f))) =
      ns.flatMap fun c => (c.occurrences.map (·.under parent)).map (·.rename f)
  | [] => rfl
  | n :: ns => by
      rw [List.map_cons, List.flatMap_cons, List.flatMap_cons, Node.occurrences_rename f n,
        Node.flatMap_occurrences_rename f parent ns, List.map_map, List.map_map]
      rfl

end

namespace Setup

theorem dispatches_rename (s : Setup) (f : Id → Id) (root : Node) :
    s.dispatches (root.rename f) = (s.dispatches root).map fun x => (x.1, x.2.rename f) := by
  unfold dispatches
  rw [Node.occurrences_rename, List.flatMap_map, List.map_flatMap]
  congr 1
  funext o
  rw [List.map_flatMap]
  congr 1
  funext r
  have hkind : (o.rename f).node.kind = o.node.kind := Node.kind_rename f o.node
  rw [hkind, List.map_replicate]

/-- **Analyses for hosts that correspond are the same.** -/
theorem analyzeUnit_rename {s : Setup} (hrules : ∀ r ∈ s.rules, r ∈ Catalog.rules) {f g : Id → Id}
    (hg : Function.Injective g) {unit : CompilationUnit} {model model' : Model}
    (h : model.Corresponds f g model' unit.root) :
    s.analyzer.analyzeUnit (unit.rename f) model' = s.analyzer.analyzeUnit unit model := by
  have hroot : (unit.rename f).root = unit.root.rename f := rfl
  have hgather : gather s.outcome (s.calls (unit.rename f) model') = gather s.outcome (s.calls unit model) := by
    rw [calls_eq_map, calls_eq_map, hroot, dispatches_rename, gather_map, gather_map, gather_map]
    apply gather_congr
    intro x hx
    obtain ⟨hrule, hoccurrence, hkind⟩ := s.of_mem_dispatches hx
    -- a check asks its host about its node and what is below it, and about no other part of the tree
    have hbelow := h.below (Node.mem_preorder_of_occurrence hoccurrence)
    have hcheck := Catalog.idBlind_of_mem (hrules _ hrule) hg
      (c := x.2.context ⟨unit, model, s.effectiveSettings⟩) hkind hbelow
    unfold outcome Call.run
    exact congrArg (fun answer => do return (← answer).filter (s.keeps x.1)) hcheck
  rw [analyzeUnit_eq_outcomes, analyzeUnit_eq_outcomes, hgather]

end Setup

/-- **Ids are opaque.** Give every node of a unit another id, and with it every key of the symbol table; give
every symbol another id, wherever it is referred to. If distinct ids stay distinct, an analysis with built-in
rules returns the very same findings, or fails in the same way. -/
theorem renaming_ids_changes_nothing {s : Setup} (hrules : ∀ r ∈ s.rules, r ∈ Catalog.rules) {a : Analyzer}
    (hbuild : s.build = .ok a) {f g : Id → Id} (hf : Function.Injective f) (hg : Function.Injective g)
    (unit : CompilationUnit) (table : SymbolTable) :
    a.analyzeUnit (unit.rename f) (table.rename f g).model = a.analyzeUnit unit table.model := by
  obtain ⟨-, rfl⟩ := s.build_eq_ok_iff.mp hbuild
  exact Setup.analyzeUnit_rename hrules hg (table.corresponds_rename hf g unit.root)

namespace Sample

/-- A class that reads a property through an interface. -/
def coupled : CompilationUnit where
  path := "Pedidos/PedidoBll.cs"
  root := .mk { kind := .compilationUnit }
    [.mk { id := 1, kind := .classDecl, identifier := some "PedidoBll" }
      [.mk { id := 2, kind := .memberAccess, text := "_cliente.Nombre" }
        [.mk { id := 3, kind := .identifierName, text := "_cliente" } []]]]

/-- The property that is read, of a class that implements the interface. -/
def nombre : Symbol where
  id := 7
  name := "Nombre"
  kind := .property
  containingType := some { id := 8, name := "Cliente", kind := .classType, interfaces := [9] }

/-- What the access and the interface are resolved to. -/
def couplings : SymbolTable where
  symbols := .ofList [(2, nombre)]
  types := .ofList [(3, { id := 9, name := "ICliente", kind := .interfaceType })]

end Sample

/-- The coupling is reported under any other ids; here nodes are shifted and symbols come in reverse order. -/
theorem renaming_ids_changes_nothing_sample :
    Function.Injective (fun i : Id => i + 5) ∧ Function.Injective (fun i : Id => -i) ∧
    ∃ a, Sample.catalog.build = .ok a ∧
    ∃ ds, a.analyzeUnit Sample.coupled Sample.couplings.model = .ok ds ∧
      ds.countP (fun d => d.code = "RA13-001") = 1 ∧
      a.analyzeUnit (Sample.coupled.rename fun i => i + 5)
        (Sample.couplings.rename (fun i => i + 5) fun i => -i).model = .ok ds := by
  have hf : Function.Injective (fun i : Id => i + 5) := fun _ _ h => (UInt32.add_left_inj 5).mp h
  have hg : Function.Injective (fun i : Id => -i) := fun _ _ h => UInt32.neg_inj.mp h
  have hrules : ∀ r ∈ Sample.catalog.rules, r ∈ Catalog.rules := fun _ hr => hr
  have hall : ∀ c ∈ Sample.catalog.calls Sample.coupled Sample.couplings.model, ∃ ds, c.run = .ok ds :=
    Call.exists_ok_of_all_isOk (by decide +kernel)
  have hds := Sample.catalog.analyzeUnit_of_all_ok hall
  refine ⟨hf, hg, _, Sample.build_catalog, _, hds, ?_, ?_⟩
  · rw [Diagnostic.sort, (List.mergeSort_perm _ _).countP_eq]
    decide +kernel
  · exact (renaming_ids_changes_nothing hrules Sample.build_catalog hf hg Sample.coupled Sample.couplings).trans hds

end LayerLint
