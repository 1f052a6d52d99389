import LayerLint.Proofs.Determinism
import LayerLint.Proofs.Imports
import LayerLint.Proofs.Renaming
import Mathlib.Data.List.Sort

/-!
# `Proofs.Couplings` — couplings are reported access by access

A coupling is a fact about one position of a tree: the member access there, its first child, and the classes on the
way down to it. Each position with a coupling is reported once, and no other is. What is known of the first child of
an access matters to that access alone: rules ask for the types of direct children only, so a type that is
replaced changes what is found at the parent and nowhere else.

## Contents
- **The way down.** `Node.NearestClass` and `Node.OutsideClasses`, which `NodeContext.enclosingClass` decides.
- **Couplings.** `SymbolTable.CouplesAt`, said of a position; `UnitContext.ReportsCoupling`, met by at most one
  finding (`UnitContext.reportsCoupling_rightUnique`).
- **Positions.** `Setup.answerAt`, what an analysis makes of a position (`Setup.analyzeUnit_eq_positions`).
- **Types.** `SymbolTable.withType`; what rules ask of types (`Catalog.check_withType`), and what sorting makes of
  one finding less (`Diagnostic.exists_sort_split`).
- **Result.** `couplings_reported_at_accesses`.
-/

namespace LayerLint

/-! ## The way down -/

namespace Node

theorem at?_append (p q : List Nat) (root : Node) : root.at? (p ++ q) = (root.at? p).bind (at? q) := by
  induction p generalizing root with
  | nil => rfl
  | cons i p ih =>
      show root.children[i]?.bind (at? (p ++ q)) = (root.children[i]?.bind (at? p)).bind (at? q)
      rw [Option.bind_assoc]
      congr 1
      funext n
      exact ih n

theorem at?_child {root n : Node} {p : List Nat} (h : root.at? p = some n) (i : Nat) :
    root.at? (p ++ [i]) = n.children[i]? := by
  rw [at?_append, h]
  show n.children[i]?.bind (at? []) = n.children[i]?
  cases n.children[i]? <;> rfl

/-- One step further down there is one more node above. -/
theorem above_child {root n : Node} {p : List Nat} (h : root.at? p = some n) (i : Nat) :
    root.above (p ++ [i]) = root.above p ++ [n] := by
  induction p generalizing root with
  | nil =>
      obtain rfl : root = n := Option.some.inj h
      show root :: root.children[i]?.elim [] (above []) = [root]
      cases root.children[i]? <;> rfl
  | cons j p ih =>
      obtain ⟨c, hc, h⟩ := Option.bind_eq_some_iff.mp h
      show root :: root.children[j]?.elim [] (above (p ++ [i])) = root :: root.children[j]?.elim [] (above p) ++ [n]
      rw [hc, List.cons_append]
      exact congrArg (root :: ·) (ih h)

/-- Each position of a tree is listed once. -/
theorem positions_nodup (root : Node) : root.positions.Nodup := by
  refine (positions_increasing root).imp fun {p q} hlt heq => ?_
  rw [heq] at hlt
  exact List.lt_irrefl q hlt

/-- Around a position stand other positions. -/
theorem exists_positions_split {root n : Node} {p : List Nat} (hn : root.at? p = some n) :
    ∃ left right, root.positions = left ++ p :: right ∧ (∀ q ∈ left, q ≠ p) ∧ ∀ q ∈ right, q ≠ p := by
  have hmem : p ∈ root.positions := mem_positions.mpr (by rw [hn]; rfl)
  obtain ⟨left, right, hsplit⟩ := List.append_of_mem hmem
  have hnodup : (left ++ p :: right).Nodup := hsplit ▸ root.positions_nodup
  have hnot : p ∉ left ++ right := (List.nodup_cons.mp (List.nodup_middle.mp hnodup)).1
  refine ⟨left, right, hsplit, ?_, ?_⟩
  · rintro q hq rfl
    exact hnot (List.mem_append_left right hq)
  · rintro q hq rfl
    exact hnot (List.mem_append_right left hq)

/-- **The nearest class around a position**: of the classes on the way down to it, the one furthest down. -/
def NearestClass (root : Node) (p : List Nat) (cls : Node) : Prop :=
  cls.kind = .classDecl ∧ ∃ q, q <+: p ∧ root.at? q = some cls ∧
    ∀ r n, r <+: p → root.at? r = some n → n.kind = .classDecl → r <+: q

/-- No class stands on the way down to a position. -/
def OutsideClasses (root : Node) (p : List Nat) : Prop :=
  ∀ r n, r <+: p → root.at? r = some n → n.kind ≠ .classDecl

/-- Below a node, what is no class itself has the nearest class of that node. -/
theorem enclosingClass_child {root parent n : Node} {p : List Nat} (hparent : root.at? p = some parent) (i : Nat)
    (hkind : n.kind ≠ .classDecl) (u : UnitContext) :
    NodeContext.enclosingClass ⟨u, n, root.above (p ++ [i])⟩ =
      NodeContext.enclosingClass ⟨u, parent, root.above p⟩ := by
  unfold NodeContext.enclosingClass
  rw [above_child hparent, if_neg hkind, List.reverse_append, List.reverse_singleton, List.singleton_append,
    List.find?_cons]
  by_cases hclass : parent.kind = .classDecl
  · rw [if_pos hclass, hclass]
    rfl
  · rw [if_neg hclass, beq_eq_false_iff_ne.mpr hclass]

/-- On the way down to what is no class, the classes are those on the way down to its parent. -/
theorem prefix_of_class {root n m : Node} {p r : List Nat} {i : Nat} (hn : root.at? (p ++ [i]) = some n)
    (hkind : n.kind ≠ .classDecl) (hr : r <+: p ++ [i]) (hm : root.at? r = some m) (hclass : m.kind = .classDecl) :
    r <+: p := by
  rcases List.prefix_concat_iff.mp hr with rfl | hr
  · obtain rfl : n = m := Option.some.inj (hn.symm.trans hm)
    exact absurd hclass hkind
  · exact hr

theorem NearestClass.unique {root cls cls' : Node} {p : List Nat} (h : root.NearestClass p cls)
    (h' : root.NearestClass p cls') : cls = cls' := by
  obtain ⟨hclass, q, hq, hat, hdeepest⟩ := h
  obtain ⟨hclass', q', hq', hat', hdeepest'⟩ := h'
  have hle : q <+: q' := hdeepest' q cls hq hat hclass
  have hge : q' <+: q := hdeepest q' cls' hq' hat' hclass'
  obtain rfl : q = q' := hle.eq_of_length (Nat.le_antisymm hle.length_le hge.length_le)
  exact Option.some.inj (hat.symm.trans hat')

theorem NearestClass.not_outside {root cls : Node} {p : List Nat} (h : root.NearestClass p cls) :
    ¬root.OutsideClasses p := by
  obtain ⟨hclass, q, hq, hat, -⟩ := h
  exact fun houtside => houtside q cls hq hat hclass

/-- Either there is a nearest class around a position, and it is the one that a check sees, or a check sees none
and there is none. -/
theorem enclosingClass_cases {root n : Node} {p : List Nat} (hn : root.at? p = some n) (u : UnitContext) :
    (∃ cls, NodeContext.enclosingClass ⟨u, n, root.above p⟩ = some cls ∧ root.NearestClass p cls) ∨
      NodeContext.enclosingClass ⟨u, n, root.above p⟩ = none ∧ root.OutsideClasses p := by
  -- from the root down: a class is its own nearest class, and all else leaves the answer of its parent
  induction p using List.reverseRecOn generalizing n with
  | nil =>
      obtain rfl : root = n := Option.some.inj hn
      by_cases hkind : root.kind = .classDecl
      · exact .inl ⟨root, if_pos hkind, hkind, [], List.prefix_refl [], rfl, fun r _ hr _ _ => hr⟩
      · refine .inr ⟨if_neg hkind, fun r m hr hm => ?_⟩
        obtain rfl := List.prefix_nil.mp hr
        obtain rfl : root = m := Option.some.inj hm
        exact hkind
  | append_singleton p i ih =>
      by_cases hkind : n.kind = .classDecl
      · exact .inl ⟨n, if_pos hkind, hkind, p ++ [i], List.prefix_refl _, hn, fun r _ hr _ _ => hr⟩
      · obtain ⟨parent, hparent, -⟩ := Option.bind_eq_some_iff.mp (at?_append p [i] root ▸ hn)
        rw [enclosingClass_child hparent i hkind u]
        rcases ih hparent with ⟨cls, hcls, hclass, q, hq, hat, hdeepest⟩ | ⟨hnone, houtside⟩
        · refine .inl ⟨cls, hcls, hclass, q, hq.trans (List.prefix_append p [i]), hat, ?_⟩
          intro r m hr hm hk
          exact hdeepest r m (prefix_of_class hn hkind hr hm hk) hm hk
        · refine .inr ⟨hnone, ?_⟩
          intro r m hr hm hk
          exact houtside r m (prefix_of_class hn hkind hr hm hk) hm hk

/-- **Who accesses a member** at a position: the nearest class around it, or the class that declares the member if
there is none. -/
def Accessor (root : Node) (p : List Nat) (container : TypeInfo) (name : String) : Prop :=
  (∃ cls, root.NearestClass p cls ∧ name = cls.name) ∨ root.OutsideClasses p ∧ name = container.name

theorem Accessor.unique {root : Node} {p : List Nat} {container : TypeInfo} {name name' : String}
    (h : root.Accessor p container name) (h' : root.Accessor p container name') : name = name' := by
  rcases h with ⟨cls, hcls, rfl⟩ | ⟨houtside, rfl⟩
  · rcases h' with ⟨cls', hcls', rfl⟩ | ⟨houtside', -⟩
    · rw [hcls.unique hcls']
    · exact absurd houtside' hcls.not_outside
  · rcases h' with ⟨cls', hcls', -⟩ | ⟨-, rfl⟩
    · exact absurd houtside hcls'.not_outside
    · rfl

end Node

/-! ## Couplings -/

/-- **A coupling at a position**: a member access whose symbol is a property of a class, and whose first child has
the type of an interface that the class implements. -/
structure SymbolTable.CouplesAt (t : SymbolTable) (root : Node) (p : List Nat) (k : Catalog.Coupling) : Prop where
  access : ∃ n, root.at? p = some n ∧ n.kind = .memberAccess ∧ t.symbols.get? n.id = some k.property
  isProperty : k.property.kind = .property
  contained : k.property.containingType = some k.container
  isClass : k.container.kind = .classType
  receiver : ∃ n, root.at? (p ++ [0]) = some n ∧ t.types.get? n.id = some k.interface
  isInterface : k.interface.kind = .interfaceType
  implemented : k.interface.id ∈ k.container.interfaces

theorem SymbolTable.couplesAt_iff {t : SymbolTable} {root n : Node} {p : List Nat} (hn : root.at? p = some n)
    {k : Catalog.Coupling} : t.CouplesAt root p k ↔ Catalog.coupling? t.model n = some k := by
  have hreceiver : root.at? (p ++ [0]) = n.children.head? :=
    (Node.at?_child hn 0).trans (List.head?_eq_getElem? (l := n.children)).symm
  rw [Catalog.coupling?_eq_some_iff]
  constructor
  · rintro ⟨⟨m, hm, hkind, hsymbol⟩, hproperty, hcontained, hclass, ⟨r, hr, htype⟩, hinterface, himplemented⟩
    obtain rfl : n = m := Option.some.inj (hn.symm.trans hm)
    exact ⟨hsymbol, hproperty, hcontained, hclass, r, (if_pos hkind).trans (hreceiver ▸ hr), htype, hinterface,
      List.contains_iff_mem.mpr himplemented⟩
  · rintro ⟨hsymbol, hproperty, hcontained, hclass, r, hr, htype, hinterface, himplemented⟩
    obtain ⟨hkind, hr⟩ := Option.ite_none_right_eq_some.mp hr
    exact ⟨⟨n, hn, hkind, hsymbol⟩, hproperty, hcontained, hclass, ⟨r, hreceiver.trans hr, htype⟩, hinterface,
      List.contains_iff_mem.mp himplemented⟩

theorem SymbolTable.CouplesAt.unique {t : SymbolTable} {root : Node} {p : List Nat} {k k' : Catalog.Coupling}
    (h : t.CouplesAt root p k) (h' : t.CouplesAt root p k') : k = k' := by
  obtain ⟨n, hn, -⟩ := h.access
  exact Option.some.inj (((couplesAt_iff hn).mp h).symm.trans ((couplesAt_iff hn).mp h'))

/-- What is said of a coupling at a node. -/
def NodeContext.couplingIssue? (c : NodeContext) : Option Issue :=
  (Catalog.coupling? c.model c.node).map fun k =>
    ⟨c.node.span, [c.enclosingClass.elim k.container.name Node.name, k.interface.name, k.property.name,
      k.container.name]⟩

namespace Catalog

theorem abstractionWithoutDecoupling_check (c : NodeContext) : abstractionWithoutDecoupling.check c =
    c.couplingIssue?.toList.mapM (Issue.report c.unit interfaceWithoutDecoupling) := by
  unfold NodeContext.couplingIssue? abstractionWithoutDecoupling
  dsimp only
  cases coupling? c.model c.node with
  | none => rfl
  | some k =>
      rw [Option.map_some, Option.toList_some, Issue.mapM_report_singleton]
      cases c.enclosingClass <;> rfl

theorem abstractionWithoutDecoupling_raises :
    abstractionWithoutDecoupling.Raises interfaceWithoutDecoupling fun c => c.couplingIssue?.toList :=
  Rule.raises_of_report fun c _ hds => (abstractionWithoutDecoupling_check c).symm.trans hds

end Catalog

namespace UnitContext

/-- What is said of a coupling at a position. -/
def couplingAt? (u : UnitContext) (p : List Nat) : Option Issue :=
  (u.unit.root.occurrenceAt? p).bind fun o => (o.context u).couplingIssue?

/-- **A finding reports the coupling at a position**: it is at the access, and names who accesses, the interface,
the property and its class. -/
def ReportsCoupling (u : UnitContext) (t : SymbolTable) (p : List Nat) (d : Diagnostic) : Prop :=
  ∃ n k accessor, u.unit.root.at? p = some n ∧ t.CouplesAt u.unit.root p k ∧
    u.unit.root.Accessor p k.container accessor ∧
    Issue.report u Catalog.interfaceWithoutDecoupling
      ⟨n.span, [accessor, k.interface.name, k.property.name, k.container.name]⟩ = .ok d

variable {u : UnitContext} {t : SymbolTable} {p : List Nat}

theorem couplingAt?_eq {n : Node} (hn : u.unit.root.at? p = some n) :
    u.couplingAt? p = NodeContext.couplingIssue? ⟨u, n, u.unit.root.above p⟩ := by
  unfold couplingAt? Node.occurrenceAt?
  rw [hn]
  rfl

theorem couplingAt?_isSome_iff (hmodel : u.model = t.model) :
    (u.couplingAt? p).isSome = true ↔ ∃ k, t.CouplesAt u.unit.root p k := by
  cases hn : u.unit.root.at? p with
  | none =>
      have hnone : u.couplingAt? p = none := by
        unfold couplingAt? Node.occurrenceAt?
        rw [hn]
        rfl
      rw [hnone]
      constructor
      · intro h
        cases h
      · rintro ⟨k, hk⟩
        obtain ⟨n, hn', -⟩ := hk.access
        rw [hn] at hn'
        cases hn'
  | some n =>
      rw [couplingAt?_eq hn, NodeContext.couplingIssue?, Option.isSome_map, Option.isSome_iff_exists]
      have hasked : NodeContext.model ⟨u, n, u.unit.root.above p⟩ = t.model := hmodel
      simp only [hasked, SymbolTable.couplesAt_iff hn]

/-- The positions with a coupling, in pre-order. -/
def couplingSites (u : UnitContext) : List (List Nat) :=
  u.unit.root.positions.filter fun p => (u.couplingAt? p).isSome

theorem couplingSites_increasing (u : UnitContext) : u.couplingSites.Pairwise (· < ·) :=
  (Node.positions_increasing u.unit.root).filter _

theorem mem_couplingSites (hmodel : u.model = t.model) :
    p ∈ u.couplingSites ↔ ∃ k, t.CouplesAt u.unit.root p k := by
  rw [couplingSites, List.mem_filter, Node.mem_positions, couplingAt?_isSome_iff hmodel]
  refine and_iff_right_of_imp ?_
  rintro ⟨k, hk⟩
  obtain ⟨n, hn, -⟩ := hk.access
  rw [hn]
  rfl

/-- Increasing positions that are those with a coupling are these. -/
theorem couplingSites_unique (hmodel : u.model = t.model) {sites : List (List Nat)}
    (hincreasing : sites.Pairwise (· < ·)) (h : ∀ p, p ∈ sites ↔ ∃ k, t.CouplesAt u.unit.root p k) :
    sites = u.couplingSites :=
  hincreasing.eq_of_mem_iff u.couplingSites_increasing fun p => (h p).trans (mem_couplingSites hmodel).symm

/-- **A position has at most one finding** on couplings. -/
theorem reportsCoupling_rightUnique (u : UnitContext) (t : SymbolTable) :
    Relator.RightUnique (u.ReportsCoupling t) := by
  rintro p d d' ⟨n, k, accessor, hn, hk, haccessor, hd⟩ ⟨n', k', accessor', hn', hk', haccessor', hd'⟩
  obtain rfl : n = n' := Option.some.inj (hn.symm.trans hn')
  obtain rfl := hk.unique hk'
  obtain rfl := haccessor.unique haccessor'
  exact Except.ok.inj (hd.symm.trans hd')

theorem reportsCoupling_of_report (hmodel : u.model = t.model) {i : Issue} (hi : u.couplingAt? p = some i)
    {d : Diagnostic} (hd : Issue.report u Catalog.interfaceWithoutDecoupling i = .ok d) : u.ReportsCoupling t p d := by
  obtain ⟨o, ho, hissue⟩ := Option.bind_eq_some_iff.mp hi
  obtain ⟨n, hn, rfl⟩ := Option.map_eq_some_iff.mp ho
  obtain ⟨k, hk, rfl⟩ := Option.map_eq_some_iff.mp hissue
  have hasked : NodeContext.model ⟨u, n, u.unit.root.above p⟩ = t.model := hmodel
  have hcouples : t.CouplesAt u.unit.root p k := (SymbolTable.couplesAt_iff hn).mpr (hasked ▸ hk)
  rcases Node.enclosingClass_cases hn u with ⟨cls, hcls, hnearest⟩ | ⟨hnone, houtside⟩
  · refine ⟨n, k, cls.name, hn, hcouples, .inl ⟨cls, hnearest, rfl⟩, ?_⟩
    rw [← hd]
    unfold Occurrence.context
    rw [hcls]
    rfl
  · refine ⟨n, k, k.container.name, hn, hcouples, .inr ⟨houtside, rfl⟩, ?_⟩
    rw [← hd]
    unfold Occurrence.context
    rw [hnone]
    rfl

end UnitContext

theorem gather_singleton {α : Type} {f : α → Except Fault (List Diagnostic)} (x : α) : gather f [x] = f x := by
  rw [gather_cons]
  cases f x with
  | error e => rfl
  | ok ds => exact congrArg Except.ok (List.append_nil ds)

/-- What is reported of the elements that give something is reported of each of these elements. -/
theorem forall₂_of_mapM_filterMap {α β : Type} {f : α → Option β} {g : β → Except Fault Diagnostic} {xs : List α}
    {ds : List Diagnostic} (h : (xs.filterMap f).mapM g = .ok ds) :
    List.Forall₂ (fun x d => ∃ y, f x = some y ∧ g y = .ok d) (xs.filter fun x => (f x).isSome) ds := by
  induction xs generalizing ds with
  | nil =>
      obtain rfl : [] = ds := Except.ok.inj h
      exact .nil
  | cons x xs ih =>
      cases hf : f x with
      | none =>
          rw [List.filterMap_cons_none hf] at h
          rw [List.filter_cons_of_neg (by rw [hf]; exact Bool.false_ne_true)]
          exact ih h
      | some y =>
          rw [List.filterMap_cons_some hf, mapM_cons_eq_ok_iff] at h
          obtain ⟨d, rest, hd, hrest, rfl⟩ := h
          rw [List.filter_cons_of_pos (by rw [hf]; rfl)]
          exact .cons ⟨y, hf, hd⟩ (ih hrest)

namespace Setup

variable {s : Setup} {unit : CompilationUnit} {t : SymbolTable} {ds : List Diagnostic}

/-- What is raised at the occurrences of member accesses is raised position by position: nodes of other kinds have no
receiver, and so no coupling. -/
theorem couplingIssues_eq (s : Setup) (unit : CompilationUnit) (t : SymbolTable) :
    ((unit.root.occurrences.filter fun o =>
      o.node.kind ∈ Catalog.abstractionWithoutDecoupling.kinds).flatMap fun o =>
        (o.context (s.unitContext unit t.model)).couplingIssue?.toList) =
      unit.root.positions.filterMap (s.unitContext unit t.model).couplingAt? := by
  have hsilent : ∀ o : Occurrence, decide (o.node.kind ∈ Catalog.abstractionWithoutDecoupling.kinds) = false →
      (o.context (s.unitContext unit t.model)).couplingIssue?.toList = [] := by
    intro o ho
    have hkind : o.node.kind ≠ .memberAccess := fun h => of_decide_eq_false ho (List.mem_singleton.mpr h)
    have hnone : Catalog.coupling? t.model o.node = none := by
      refine Option.eq_none_iff_forall_ne_some.mpr fun k hk => ?_
      obtain ⟨-, -, -, -, receiver, hreceiver, -⟩ := Catalog.coupling?_eq_some_iff.mp hk
      rw [Node.receiver, if_neg hkind] at hreceiver
      cases hreceiver
    show (Option.map _ (Catalog.coupling? t.model o.node)).toList = []
    rw [hnone]
    rfl
  rw [flatMap_filter_of_nil hsilent, ← List.filterMap_eq_flatMap_toList, Node.occurrences, List.filterMap_filterMap]
  rfl

/-- **Each coupling is reported once**, and nothing else is reported as one. -/
theorem reports_couplings (hrules : s.rules = Catalog.rules) (hds : s.analyzer.analyzeUnit unit t.model = .ok ds) :
    ∃ sites found, sites.Pairwise (· < ·) ∧
      (∀ p, p ∈ sites ↔
        s.activates Catalog.interfaceWithoutDecoupling = true ∧ ∃ k, t.CouplesAt unit.root p k) ∧
      List.Forall₂ ((s.unitContext unit t.model).ReportsCoupling t) sites found ∧
      ds.filter (·.code == Catalog.interfaceWithoutDecoupling.id) = Diagnostic.sort found := by
  have hmodel : (s.unitContext unit t.model).model = t.model := rfl
  have hreports := reports_of_raises hrules (by simp [Catalog.rules]) (.head _)
    Catalog.abstractionWithoutDecoupling_raises hds
  obtain ⟨found, hfound, hsorted⟩ := hreports
  rw [couplingIssues_eq] at hfound
  cases hactive : s.activates Catalog.interfaceWithoutDecoupling with
  | false =>
      rw [hactive] at hfound
      obtain rfl : [] = found := Except.ok.inj hfound
      have hnone : ∀ p, p ∈ ([] : List (List Nat)) ↔ false = true ∧ ∃ k, t.CouplesAt unit.root p k := by
        intro p
        simp
      exact ⟨[], [], .nil, hnone, .nil, hsorted⟩
  | true =>
      rw [hactive, if_pos rfl] at hfound
      refine ⟨_, found, UnitContext.couplingSites_increasing _, fun p => ?_,
        (forall₂_of_mapM_filterMap hfound).imp ?_, hsorted⟩
      · rw [UnitContext.mem_couplingSites hmodel]
        exact (and_iff_right rfl).symm
      · rintro p d ⟨i, hi, hd⟩
        exact UnitContext.reportsCoupling_of_report hmodel hi hd

/-! ## Positions -/

/-- What an analysis makes of a position: the outcomes of the calls there. -/
def answerAt (s : Setup) (u : UnitContext) (p : List Nat) : Except Fault (List Diagnostic) :=
  gather s.outcome ((u.unit.root.occurrenceAt? p).toList.flatMap (s.callsAt u))

/-- **An analysis goes from position to position.** -/
theorem analyzeUnit_eq_positions (s : Setup) (unit : CompilationUnit) (model : Model) :
    s.analyzer.analyzeUnit unit model = do
      return Diagnostic.sort (← gather (s.answerAt (s.unitContext unit model)) unit.root.positions) := by
  have hcalls : s.calls unit model = unit.root.positions.flatMap fun p =>
      (unit.root.occurrenceAt? p).toList.flatMap (s.callsAt (s.unitContext unit model)) := by
    unfold calls Node.occurrences
    rw [List.filterMap_eq_flatMap_toList, List.flatMap_assoc]
    rfl
  rw [analyzeUnit_eq_outcomes, hcalls, gather_flatMap]
  rfl

/-- Checks that answer alike at a position make analyses that answer alike there. -/
theorem answerAt_congr {u u' : UnitContext} {p : List Nat} (hunit : u'.unit = u.unit)
    (h : ∀ r ∈ s.rules, ∀ o, u.unit.root.occurrenceAt? p = some o →
      r.check (o.context u') = r.check (o.context u)) : s.answerAt u' p = s.answerAt u p := by
  unfold answerAt
  rw [hunit]
  cases ho : u.unit.root.occurrenceAt? p with
  | none => rfl
  | some o =>
      rw [Option.toList_some, List.flatMap_singleton, List.flatMap_singleton, callsAt, callsAt, gather_flatMap,
        gather_flatMap]
      refine gather_congr fun r hr => gather_replicate_congr ?_ _
      have hcheck := h r (List.mem_filter.mp hr).1 o ho
      unfold outcome Call.run
      exact congrArg (fun answer => do return (← answer).filter (s.keeps r)) hcheck

/-- At a member access one rule is called, if its kind of finding is reported. -/
theorem callsAt_access (hrules : s.rules = Catalog.rules) (u : UnitContext) {o : Occurrence}
    (hkind : o.node.kind = .memberAccess) :
    s.callsAt u o = if s.activates Catalog.interfaceWithoutDecoupling then
      [⟨Catalog.abstractionWithoutDecoupling, o.context u⟩] else [] := by
  have hone : Catalog.rules.filter (fun r => decide (o.node.kind ∈ r.kinds)) =
      [Catalog.abstractionWithoutDecoupling] := by
    rw [hkind]
    rfl
  have hsilent : ∀ r : Rule, decide (o.node.kind ∈ r.kinds) = false →
      List.replicate (r.kinds.count o.node.kind) (Call.mk r (o.context u)) = [] := by
    intro r hr
    rw [List.count_eq_zero_of_not_mem (of_decide_eq_false hr), List.replicate_zero]
  have hcount : Catalog.abstractionWithoutDecoupling.kinds.count o.node.kind = 1 := by
    rw [hkind]
    rfl
  have hdescriptors : Catalog.abstractionWithoutDecoupling.descriptors.any s.activates =
      s.activates Catalog.interfaceWithoutDecoupling := Bool.or_false _
  have hcalls : s.callsAt u o =
      s.retained.flatMap fun r => List.replicate (r.kinds.count o.node.kind) (Call.mk r (o.context u)) := rfl
  rw [hcalls, ← flatMap_filter_of_nil hsilent, retained, List.filter_filter,
    List.filter_congr fun _ _ => Bool.and_comm _ _, ← List.filter_filter, hrules, hone, List.filter_cons, hdescriptors]
  cases s.activates Catalog.interfaceWithoutDecoupling with
  | false => rfl
  | true => rw [if_pos rfl, if_pos rfl, List.filter_nil, List.flatMap_singleton, hcount, List.replicate_one]

/-- All that a call of this rule finds is kept. -/
theorem outcome_coupling (hrules : s.rules = Catalog.rules)
    (hactive : s.activates Catalog.interfaceWithoutDecoupling = true) (c : NodeContext) :
    s.outcome ⟨Catalog.abstractionWithoutDecoupling, c⟩ =
      c.couplingIssue?.toList.mapM (Issue.report c.unit Catalog.interfaceWithoutDecoupling) := by
  have hrule : Catalog.abstractionWithoutDecoupling ∈ Catalog.rules := by simp [Catalog.rules]
  have hkept : ∀ d : Diagnostic, (d.code == Catalog.interfaceWithoutDecoupling.id) = true →
      s.keeps Catalog.abstractionWithoutDecoupling d = true := by
    intro d hd
    rw [keeps, beq_iff_eq.mp hd, Catalog.declares_of_mem (.head _), allows_id hrules hrule (.head _), hactive]
    rfl
  rw [outcome, Call.run, Catalog.abstractionWithoutDecoupling_check]
  cases hreport : c.couplingIssue?.toList.mapM (Issue.report c.unit Catalog.interfaceWithoutDecoupling) with
  | error e => rfl
  | ok ds =>
      have hcodes := List.filter_eq_self.mp (Issue.filter_code_of_mapM_report hreport)
      exact congrArg Except.ok (List.filter_eq_self.mpr fun d hd => hkept d (hcodes d hd))

/-- **Only couplings are looked for at a member access.** -/
theorem answerAt_access (hrules : s.rules = Catalog.rules) {u : UnitContext} {p : List Nat} {n : Node}
    (hn : u.unit.root.at? p = some n) (hkind : n.kind = .memberAccess) :
    s.answerAt u p = if s.activates Catalog.interfaceWithoutDecoupling then
      (u.couplingAt? p).toList.mapM (Issue.report u Catalog.interfaceWithoutDecoupling) else .ok [] := by
  have ho : u.unit.root.occurrenceAt? p = some ⟨u.unit.root.above p, n⟩ := by rw [Node.occurrenceAt?, hn]; rfl
  rw [answerAt, ho, Option.toList_some, List.flatMap_singleton, callsAt_access hrules u hkind]
  cases hactive : s.activates Catalog.interfaceWithoutDecoupling with
  | false => rfl
  | true =>
      rw [if_pos rfl, if_pos rfl, gather_singleton, outcome_coupling hrules hactive, UnitContext.couplingAt?_eq hn]
      rfl

/-- **At a coupling, an analysis that finishes makes the one finding that reports it**, if the kind is reported. -/
theorem answerAt_coupling (hrules : s.rules = Catalog.rules) {p : List Nat} {k : Catalog.Coupling}
    (hk : t.CouplesAt unit.root p k) {found : List Diagnostic}
    (hfound : s.answerAt (s.unitContext unit t.model) p = .ok found) :
    if s.activates Catalog.interfaceWithoutDecoupling then
      ∃ d, (s.unitContext unit t.model).ReportsCoupling t p d ∧ found = [d]
    else found = [] := by
  obtain ⟨n, hn, hkind, -⟩ := hk.access
  rw [answerAt_access hrules hn hkind] at hfound
  cases hactive : s.activates Catalog.interfaceWithoutDecoupling with
  | false =>
      rw [hactive] at hfound
      exact (Except.ok.inj hfound).symm
  | true =>
      have hsome : ((s.unitContext unit t.model).couplingAt? p).isSome = true :=
        (UnitContext.couplingAt?_isSome_iff rfl).mpr ⟨k, hk⟩
      obtain ⟨i, hi⟩ := Option.isSome_iff_exists.mp hsome
      rw [hactive, if_pos rfl, hi, Option.toList_some, mapM_cons_eq_ok_iff] at hfound
      obtain ⟨d, rest, hd, hrest, rfl⟩ := hfound
      obtain rfl : [] = rest := Except.ok.inj hrest
      exact ⟨d, UnitContext.reportsCoupling_of_report rfl hi hd, rfl⟩

end Setup

/-! ## Types -/

/-- The host with other answers about types. -/
def Model.typedBy (m : Model) (f : Node → Option TypeInfo) : Model := { m with type := f }

/-- The table with another type at an id. -/
def SymbolTable.withType (t : SymbolTable) (id : Id) (ty : TypeInfo) : SymbolTable :=
  { t with types := t.types.insert id ty }

/-- A type that is replaced is the type at its id, and no other changes. -/
theorem SymbolTable.model_withType (t : SymbolTable) (id : Id) (ty : TypeInfo) :
    (t.withType id ty).model = t.model.typedBy fun n => if n.id = id then some ty else t.model.type n := by
  have htype : (t.withType id ty).model.type = fun n => if n.id = id then some ty else t.model.type n := by
    funext n
    exact t.types.get?_insert id n.id ty
  rw [Model.typedBy, ← htype]
  rfl

namespace Catalog

variable {c : NodeContext} {f : Node → Option TypeInfo}

theorem any_referencesDataAccess_withType (h : ∀ n ∈ c.node.children, f n = c.model.type n) :
    c.node.members.any (Scan.referencesDataAccess (c.model.typedBy f)) =
      c.node.members.any (Scan.referencesDataAccess c.model) := by
  have hmember : ∀ n ∈ c.node.members, Scan.referencesDataAccess (c.model.typedBy f) n =
      Scan.referencesDataAccess c.model n := by
    intro n hn
    unfold Scan.referencesDataAccess Model.typedBy
    dsimp only
    rw [h n hn]
  rw [Bool.eq_iff_iff, List.any_eq_true, List.any_eq_true]
  exact exists_congr fun n => and_congr_right fun hn => by rw [hmember n hn]

theorem viewModel_withType (h : ∀ n ∈ c.node.children, f n = c.model.type n) :
    viewModel.check (c.withModel (c.model.typedBy f)) = viewModel.check c := by
  have hreferences : (c.withModel (c.model.typedBy f)).node.members.any
      (Scan.referencesDataAccess (c.withModel (c.model.typedBy f)).model) =
      c.node.members.any (Scan.referencesDataAccess c.model) := any_referencesDataAccess_withType h
  unfold viewModel
  dsimp only
  rw [hreferences]
  rfl

theorem controllerModel_withType (h : ∀ n ∈ c.node.children, f n = c.model.type n) :
    controllerModel.check (c.withModel (c.model.typedBy f)) = controllerModel.check c := by
  have hreferences : (c.withModel (c.model.typedBy f)).node.members.any
      (Scan.referencesDataAccess (c.withModel (c.model.typedBy f)).model) =
      c.node.members.any (Scan.referencesDataAccess c.model) := any_referencesDataAccess_withType h
  unfold controllerModel
  dsimp only
  rw [hreferences]
  rfl

theorem coupling?_withType (h : ∀ n ∈ c.node.children, f n = c.model.type n) :
    coupling? (c.model.typedBy f) c.node = coupling? c.model c.node := by
  have hreceiver : ∀ r, c.node.receiver = some r → (c.model.typedBy f).type r = c.model.type r :=
    fun r hr => h r (List.mem_of_head? (Option.ite_none_right_eq_some.mp hr).2)
  refine Option.ext fun k => ?_
  rw [coupling?_eq_some_iff, coupling?_eq_some_iff]
  refine and_congr_right fun _ => and_congr_right fun _ => and_congr_right fun _ => and_congr_right fun _ => ?_
  exact exists_congr fun r => and_congr_right fun hr => by rw [hreceiver r hr]

theorem abstractionWithoutDecoupling_withType (h : ∀ n ∈ c.node.children, f n = c.model.type n) :
    abstractionWithoutDecoupling.check (c.withModel (c.model.typedBy f)) =
      abstractionWithoutDecoupling.check c := by
  have hcoupling : coupling? (c.withModel (c.model.typedBy f)).model (c.withModel (c.model.typedBy f)).node =
      coupling? c.model c.node := coupling?_withType h
  unfold abstractionWithoutDecoupling
  dsimp only
  rw [hcoupling]
  rfl

/-- **Rules ask for the types of direct children only.** -/
theorem check_withType {r : Rule} (hr : r ∈ rules) (h : ∀ n ∈ c.node.children, f n = c.model.type n) :
    r.check (c.withModel (c.model.typedBy f)) = r.check c := by
  simp only [rules, List.mem_cons, List.not_mem_nil, or_false] at hr
  rcases hr with rfl | rfl | rfl | rfl | rfl | rfl | rfl | rfl | rfl | rfl | rfl | rfl | rfl | rfl | rfl | rfl
  · rfl
  · rfl
  · exact viewModel_withType h
  · rfl
  · exact check_controllerView_congr rfl rfl rfl
  · exact controllerModel_withType h
  · rfl
  · rfl
  · rfl
  · rfl
  · rfl
  · rfl
  · exact abstractionWithoutDecoupling_withType h
  · rfl
  · rfl
  · rfl

end Catalog

namespace Diagnostic

/-- **One finding less**: sorting puts a finding somewhere, and without it all others stand as they stood. -/
theorem exists_sort_split (xs ys : List Diagnostic) (d : Diagnostic) :
    ∃ before after, sort (xs ++ d :: ys) = before ++ d :: after ∧ sort (xs ++ ys) = before ++ after := by
  have hs := isStableSort_sort (xs ++ d :: ys)
  -- among the findings that tie with it, it stands after those of `xs` and before those of `ys`
  have hclass : (sort (xs ++ d :: ys)).filter (ties d) = xs.filter (ties d) ++ d :: ys.filter (ties d) := by
    rw [hs.stable d, List.filter_append, List.filter_cons_of_pos (ties_self d)]
  obtain ⟨first, rest, hsplit, hfirst, hrest⟩ := List.filter_eq_append_iff.mp hclass
  obtain ⟨others, after, rfl, hothers, -, hafter⟩ := List.filter_eq_cons_iff.mp hrest
  refine ⟨first ++ others, after, by rw [hsplit, List.append_assoc], (isStableSort_iff.mp ⟨?_, ?_, ?_⟩).symm⟩
  · have hperm := hs.perm
    rw [hsplit, ← List.append_assoc] at hperm
    exact (List.perm_middle.symm.trans (hperm.trans List.perm_middle)).cons_inv
  · refine hs.ordered.sublist ?_
    rw [hsplit, ← List.append_assoc]
    exact (List.Sublist.refl _).append (List.sublist_cons_self d after)
  · intro e
    by_cases hed : ties e d
    · have hnone : others.filter (ties d) = [] := List.filter_eq_nil_iff.mpr hothers
      rw [ties_congr hed, List.filter_append, List.filter_append, hfirst, hnone, hafter, List.append_nil,
        List.filter_append]
    · have hstable := hs.stable e
      rw [hsplit, ← List.append_assoc, List.filter_append _ (d :: after), List.filter_append _ (d :: ys),
        List.filter_cons_of_neg hed, List.filter_cons_of_neg hed] at hstable
      rw [List.filter_append _ after, List.filter_append _ ys, hstable]

end Diagnostic

/-- Where the first part, the middle and the last part of a list all succeed, they are put together. -/
theorem gather_middle_eq_ok_iff {α : Type} {f : α → Except Fault (List Diagnostic)} {before after : List α} {x : α}
    {ds : List Diagnostic} : gather f (before ++ x :: after) = .ok ds ↔
      ∃ first middle last, gather f before = .ok first ∧ f x = .ok middle ∧ gather f after = .ok last ∧
        ds = first ++ (middle ++ last) := by
  rw [gather_append, gather_cons]
  cases gather f before with
  | error e => exact ⟨nofun, nofun⟩
  | ok first =>
      cases f x with
      | error e => exact ⟨nofun, nofun⟩
      | ok middle =>
          cases gather f after with
          | error e => exact ⟨nofun, nofun⟩
          | ok last =>
              constructor
              · intro h
                exact ⟨first, middle, last, rfl, rfl, rfl, (Except.ok.inj h).symm⟩
              · rintro ⟨_, _, _, ⟨⟩, ⟨⟩, ⟨⟩, rfl⟩
                rfl

namespace Setup

variable {s : Setup} {unit : CompilationUnit} {t : SymbolTable} {p : List Nat} {receiver : Node} {ty : TypeInfo}

/-- **A type matters to the parent alone**: if the node at a child of a position shares its id with no other node, its
type plays no part in what an analysis makes of other positions. -/
theorem answerAt_withType (hrules : s.rules = Catalog.rules)
    (hunique : ∀ q n, unit.root.at? q = some n → n.id = receiver.id → q = p ++ [0]) {q : List Nat} (hq : q ≠ p) :
    s.answerAt (s.unitContext unit (t.withType receiver.id ty).model) q =
      s.answerAt (s.unitContext unit t.model) q := by
  refine answerAt_congr rfl fun r hr o ho => ?_
  obtain ⟨n, hn, rfl⟩ := Option.map_eq_some_iff.mp ho
  rw [t.model_withType receiver.id ty]
  refine Catalog.check_withType (c := ⟨s.unitContext unit t.model, n, unit.root.above q⟩) (hrules ▸ hr) ?_
  intro child hchild
  obtain ⟨i, hi⟩ := List.mem_iff_getElem?.mp hchild
  refine if_neg fun hid => hq ?_
  -- the child is the receiver, and so its parent is the access
  have hsame := hunique (q ++ [i]) child ((Node.at?_child hn i).trans hi) hid
  exact (List.append_inj' hsame rfl).1

/-- **No coupling is left** at an access whose receiver gets a type that is no interface of the class. -/
theorem couplingAt?_withType {k : Catalog.Coupling} (hk : t.CouplesAt unit.root p k)
    (hreceiver : unit.root.at? (p ++ [0]) = some receiver)
    (hty : ty.kind ≠ .interfaceType ∨ ty.id ∉ k.container.interfaces) :
    (s.unitContext unit (t.withType receiver.id ty).model).couplingAt? p = none := by
  rw [← Option.not_isSome_iff_eq_none, UnitContext.couplingAt?_isSome_iff rfl]
  rintro ⟨k', hk'⟩
  obtain ⟨n, hn, -, hsymbol⟩ := hk.access
  obtain ⟨n', hn', -, hsymbol'⟩ := hk'.access
  obtain rfl : n = n' := Option.some.inj (hn.symm.trans hn')
  have hproperty : k.property = k'.property := Option.some.inj (hsymbol.symm.trans hsymbol')
  have hcontainer : k.container = k'.container :=
    Option.some.inj (hk.contained.symm.trans (hproperty ▸ hk'.contained))
  obtain ⟨r, hr, htype⟩ := hk'.receiver
  obtain rfl : receiver = r := Option.some.inj (hreceiver.symm.trans hr)
  have hinterface : ty = k'.interface := by
    have hreplaced : (t.withType receiver.id ty).types.get? receiver.id = some ty :=
      (t.types.get?_insert receiver.id receiver.id ty).trans (if_pos rfl)
    exact Option.some.inj (hreplaced.symm.trans htype)
  rcases hty with hkind | himplements
  · exact hkind (hinterface ▸ hk'.isInterface)
  · exact himplements (hinterface ▸ hcontainer ▸ hk'.implemented)

/-- **Only the coupling at the access is gone** once its receiver has such a type; all other findings stay. -/
theorem analyzeUnit_withType (hrules : s.rules = Catalog.rules) {ds : List Diagnostic}
    (hds : s.analyzer.analyzeUnit unit t.model = .ok ds) {k : Catalog.Coupling} (hk : t.CouplesAt unit.root p k)
    (hreceiver : unit.root.at? (p ++ [0]) = some receiver)
    (hunique : ∀ q n, unit.root.at? q = some n → n.id = receiver.id → q = p ++ [0])
    (hty : ty.kind ≠ .interfaceType ∨ ty.id ∉ k.container.interfaces) :
    ∃ ds', s.analyzer.analyzeUnit unit (t.withType receiver.id ty).model = .ok ds' ∧
      if s.activates Catalog.interfaceWithoutDecoupling then
        ∃ d before after, (s.unitContext unit t.model).ReportsCoupling t p d ∧ ds = before ++ d :: after ∧
          ds' = before ++ after
      else ds' = ds := by
  obtain ⟨n, hn, hkind, -⟩ := hk.access
  obtain ⟨left, right, hpositions, hleft, hright⟩ := Node.exists_positions_split hn
  have hsame : ∀ qs, (∀ q ∈ qs, q ≠ p) →
      gather (s.answerAt (s.unitContext unit (t.withType receiver.id ty).model)) qs =
        gather (s.answerAt (s.unitContext unit t.model)) qs :=
    fun qs hqs => gather_congr fun q hq => answerAt_withType hrules hunique (hqs q hq)
  have hgone : s.answerAt (s.unitContext unit (t.withType receiver.id ty).model) p = .ok [] := by
    rw [answerAt_access hrules hn hkind, couplingAt?_withType hk hreceiver hty]
    cases s.activates Catalog.interfaceWithoutDecoupling <;> rfl
  rw [analyzeUnit_eq_positions, hpositions] at hds
  cases hgather : gather (s.answerAt (s.unitContext unit t.model)) (left ++ p :: right) with
  | error e => rw [hgather] at hds; cases hds
  | ok found =>
      rw [hgather] at hds
      obtain rfl : Diagnostic.sort found = ds := Except.ok.inj hds
      obtain ⟨first, middle, last, hfirst, hmiddle, hlast, rfl⟩ := gather_middle_eq_ok_iff.mp hgather
      have hrest : gather (s.answerAt (s.unitContext unit (t.withType receiver.id ty).model))
          (left ++ p :: right) = .ok (first ++ ([] ++ last)) :=
        gather_middle_eq_ok_iff.mpr ⟨first, [], last, (hsame left hleft).trans hfirst, hgone,
          (hsame right hright).trans hlast, rfl⟩
      refine ⟨Diagnostic.sort (first ++ last), ?_, ?_⟩
      · rw [analyzeUnit_eq_positions, hpositions, hrest]
        rfl
      · have hcoupling := answerAt_coupling hrules hk hmiddle
        split at hcoupling
        · next hactive =>
            obtain ⟨d, hd, rfl⟩ := hcoupling
            obtain ⟨before, after, hsorted, hsorted'⟩ := Diagnostic.exists_sort_split first last d
            rw [if_pos hactive]
            exact ⟨d, before, after, hd, hsorted, hsorted'⟩
        · next hactive =>
            rw [if_neg hactive, hcoupling]
            rfl

end Setup

/-! ## Result -/

/-- **Couplings are reported access by access.** In an analysis with the built-in rules that finishes, the findings of
the kind are one for each position with a coupling, if the kind is reported at all; each names the nearest class
around the access, or the class of the property if there is none. If the receiver of such an access shares its
id with no other node, and gets another type that is no interface or none of the class, the analysis finishes
too, and it finds the same less the finding at this access. -/
theorem couplings_reported_at_accesses {s : Setup} {a : Analyzer} (hrules : s.rules = Catalog.rules)
    (hbuild : s.build = .ok a) {unit : CompilationUnit} {table : SymbolTable} {ds : List Diagnostic}
    (hds : a.analyzeUnit unit table.model = .ok ds) :
    let u := s.unitContext unit table.model
    let kind := Catalog.interfaceWithoutDecoupling
    (∃ sites found, sites.Pairwise (· < ·) ∧
      (∀ p, p ∈ sites ↔ s.activates kind = true ∧ ∃ k, table.CouplesAt unit.root p k) ∧
      List.Forall₂ (u.ReportsCoupling table) sites found ∧
      ds.filter (·.code == kind.id) = Diagnostic.sort found) ∧
    ∀ p k receiver, table.CouplesAt unit.root p k → unit.root.at? (p ++ [0]) = some receiver →
      (∀ q n, unit.root.at? q = some n → n.id = receiver.id → q = p ++ [0]) →
      ∀ ty : TypeInfo, ty.kind ≠ .interfaceType ∨ ty.id ∉ k.container.interfaces →
        ∃ ds', a.analyzeUnit unit (table.withType receiver.id ty).model = .ok ds' ∧
          if s.activates kind then
            ∃ d before after, u.ReportsCoupling table p d ∧ ds = before ++ d :: after ∧ ds' = before ++ after
          else ds' = ds := by
  obtain ⟨-, rfl⟩ := s.build_eq_ok_iff.mp hbuild
  exact ⟨Setup.reports_couplings hrules hds, fun p k receiver hk hreceiver hunique ty hty =>
    Setup.analyzeUnit_withType hrules hds hk hreceiver hunique hty⟩

namespace Sample

/-- A class that reads a property of a property, each through an interface. -/
def chained : CompilationUnit where
  path := "Pedidos/PedidoBll.cs"
  root := .mk { kind := .compilationUnit }
    [.mk { id := 1, kind := .classDecl, identifier := some "PedidoBll" }
      [.mk { id := 2, kind := .memberAccess, text := "_pedido.Cliente.Nombre" }
        [.mk { id := 3, kind := .memberAccess, text := "_pedido.Cliente" }
          [.mk { id := 4, kind := .identifierName, text := "_pedido" } []]]]]

/-- The inner access: a property of the order, read through an interface of the order. -/
def innerCoupling : Catalog.Coupling where
  property :=
    { id := 5
      name := "Cliente"
      kind := .property
      containingType := some { id := 6, name := "Pedido", kind := .classType, interfaces := [10] } }
  container := { id := 6, name := "Pedido", kind := .classType, interfaces := [10] }
  interface := { id := 10, name := "IPedido", kind := .interfaceType }

/-- The outer access: a property of the customer, read through an interface of the customer. -/
def outerCoupling : Catalog.Coupling where
  property := nombre
  container := { id := 8, name := "Cliente", kind := .classType, interfaces := [9] }
  interface := { id := 9, name := "ICliente", kind := .interfaceType }

/-- What both accesses and their receivers are resolved to. -/
def chain : SymbolTable where
  symbols := .ofList [(2, outerCoupling.property), (3, innerCoupling.property)]
  types := .ofList [(3, outerCoupling.interface), (4, innerCoupling.interface)]

theorem couplesAt_outer : chain.CouplesAt chained.root [0, 0] outerCoupling where
  access := ⟨_, rfl, rfl, by decide +kernel⟩
  isProperty := rfl
  contained := rfl
  isClass := rfl
  receiver := ⟨_, rfl, by decide +kernel⟩
  isInterface := rfl
  implemented := by decide

theorem couplesAt_inner : chain.CouplesAt chained.root [0, 0, 0] innerCoupling where
  access := ⟨_, rfl, rfl, by decide +kernel⟩
  isProperty := rfl
  contained := rfl
  isClass := rfl
  receiver := ⟨_, rfl, by decide +kernel⟩
  isInterface := rfl
  implemented := by decide

/-- What is said of the outer access. -/
def outerFinding : Diagnostic :=
  issued Catalog.interfaceWithoutDecoupling "Pedidos/PedidoBll.cs" 0 0
    "Class 'PedidoBll' uses the interface 'ICliente' to access the member 'Nombre' of class 'Cliente'"

/-- What is said of the inner access. -/
def innerFinding : Diagnostic :=
  issued Catalog.interfaceWithoutDecoupling "Pedidos/PedidoBll.cs" 0 0
    "Class 'PedidoBll' uses the interface 'IPedido' to access the member 'Cliente' of class 'Pedido'"

theorem couplingSites_chained : (house.unitContext chained chain.model).couplingSites = [[0, 0], [0, 0, 0]] := by
  decide +kernel

/-- No other node has the id of the inner access. -/
theorem eq_of_id_inner {q : List Nat} {n : Node} (hn : chained.root.at? q = some n) (hid : n.id = 3) :
    q = [0, 0] ++ [0] := by
  have hpositions : ∀ q ∈ chained.root.positions, (chained.root.at? q).map (·.id) = some 3 → q = [0, 0] ++ [0] := by
    decide +kernel
  exact hpositions q (Node.mem_positions.mpr (by rw [hn]; rfl)) (by rw [hn, Option.map_some, hid])

theorem reportsCoupling_outer : (house.unitContext chained chain.model).ReportsCoupling chain [0, 0] outerFinding := by
  have hissue : (house.unitContext chained chain.model).couplingAt? [0, 0] =
      some ⟨{}, ["PedidoBll", "ICliente", "Nombre", "Cliente"]⟩ := by decide +kernel
  exact UnitContext.reportsCoupling_of_report rfl hissue (by decide +kernel)

theorem reportsCoupling_inner :
    (house.unitContext chained chain.model).ReportsCoupling chain [0, 0, 0] innerFinding := by
  have hissue : (house.unitContext chained chain.model).couplingAt? [0, 0, 0] =
      some ⟨{}, ["PedidoBll", "IPedido", "Cliente", "Pedido"]⟩ := by decide +kernel
  exact UnitContext.reportsCoupling_of_report rfl hissue (by decide +kernel)

end Sample

/-- Both accesses of a chain are reported. The inner one is the receiver of the outer one; once it has the type of a
class, the outer one is not reported any more. -/
theorem couplings_reported_at_accesses_sample :
    Sample.house.build = .ok Sample.house.analyzer ∧
    Sample.chain.CouplesAt Sample.chained.root [0, 0] Sample.outerCoupling ∧
    Sample.chain.CouplesAt Sample.chained.root [0, 0, 0] Sample.innerCoupling ∧
    ∃ ds, Sample.house.analyzer.analyzeUnit Sample.chained Sample.chain.model = .ok ds ∧
      List.Forall₂ ((Sample.house.unitContext Sample.chained Sample.chain.model).ReportsCoupling Sample.chain)
        [[0, 0], [0, 0, 0]] [Sample.outerFinding, Sample.innerFinding] ∧
      ds.filter (·.code == "RA13-001") = [Sample.outerFinding, Sample.innerFinding] ∧
      ∃ before after, ds = before ++ Sample.outerFinding :: after ∧
        Sample.house.analyzer.analyzeUnit Sample.chained
          (Sample.chain.withType 3 Sample.outerCoupling.container).model = .ok (before ++ after) ∧
        (before ++ after).filter (·.code == "RA13-001") = [Sample.innerFinding] := by
  have hall : ∀ c ∈ Sample.house.calls Sample.chained Sample.chain.model, ∃ ds, c.run = .ok ds :=
    Call.exists_ok_of_all_isOk (by decide +kernel)
  obtain ⟨ds, hds⟩ : ∃ ds, Sample.house.analyzer.analyzeUnit Sample.chained Sample.chain.model = .ok ds :=
    ⟨_, Sample.house.analyzeUnit_of_all_ok hall⟩
  have hactive : Sample.house.activates Catalog.interfaceWithoutDecoupling = true := by decide +kernel
  obtain ⟨⟨sites, found, hincreasing, hsites, hreported, hfilter⟩, hremoved⟩ :=
    couplings_reported_at_accesses rfl Sample.build_house hds
  -- the positions and what is said of them are determined, so they are the ones written out here
  have hone := UnitContext.reportsCoupling_rightUnique
    (Sample.house.unitContext Sample.chained Sample.chain.model) Sample.chain
  have hboth : List.Forall₂
      ((Sample.house.unitContext Sample.chained Sample.chain.model).ReportsCoupling Sample.chain)
      [[0, 0], [0, 0, 0]] [Sample.outerFinding, Sample.innerFinding] :=
    .cons Sample.reportsCoupling_outer (.cons Sample.reportsCoupling_inner .nil)
  have hpositions : sites = (Sample.house.unitContext Sample.chained Sample.chain.model).couplingSites :=
    UnitContext.couplingSites_unique rfl hincreasing fun p => (hsites p).trans (and_iff_right hactive)
  rw [Sample.couplingSites_chained] at hpositions
  subst hpositions
  obtain rfl := hone.forall₂ hboth hreported
  rw [Diagnostic.sort_of_ordered (by decide +kernel)] at hfilter
  obtain ⟨ds', hds', hless⟩ := hremoved [0, 0] Sample.outerCoupling _ Sample.couplesAt_outer rfl
    (fun _ _ => Sample.eq_of_id_inner) Sample.outerCoupling.container (.inl (by decide))
  rw [hactive, if_pos rfl] at hless
  obtain ⟨d, before, after, hd, hbefore, rfl⟩ := hless
  obtain rfl := hone hd Sample.reportsCoupling_outer
  have hleft : (before ++ after).filter (·.code == "RA13-001") = [Sample.innerFinding] := by
    have hmiddle : (Sample.outerFinding :: (before ++ after).filter (·.code == "RA13-001")).Perm
        [Sample.outerFinding, Sample.innerFinding] := by
      rw [← hfilter, hbefore, List.filter_append, List.filter_append, List.filter_cons_of_pos rfl]
      exact List.perm_middle.symm
    exact List.perm_singleton.mp hmiddle.cons_inv
  exact ⟨Sample.build_house, Sample.couplesAt_outer, Sample.couplesAt_inner, ds, hds, hboth, hfilter, before, after,
    hbefore, hds', hleft⟩

end LayerLint
