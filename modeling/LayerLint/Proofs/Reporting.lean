import LayerLint.Proofs.Comparison
import LayerLint.Proofs.Findings
import Mathlib.Data.List.Nodup

/-!
# `Proofs.Reporting` — exactly these findings of a kind

What an analysis says of one kind of finding is settled once it is known what the one rule with that kind
raises at a node. The order of the walk, the other rules and the filter on codes then play no part: the
findings of the kind are the reports of what is raised at the nodes the rule is dispatched on, one for each,
in the order of reports.

## Contents
- **Issues.** `Issue`, a finding before its place is looked up; `Rule.Raises`, the findings of a rule are the
  reports of some issues.
- **Limits.** `Limit`, a condition on nodes of one kind with what is said of those that meet it;
  `Limit.EnforcedBy`.
- **Rules and codes.** A code belongs to one built-in rule (`Catalog.filter_declares`), and what is left of
  that code at an occurrence is what this rule found (`Setup.keptOf_callsAt`).
- **Analyses.** `Setup.Reports`, and that a rule which raises some issues makes an analysis report them:
  `Setup.reports_of_raises`, `Setup.reports_nodes`, `Setup.reports_limit`. What is then found of the kind is
  `Setup.Reports.filter_eq`.
-/

namespace LayerLint

/-- The nodes of a kind in a tree, at any depth. -/
def Node.nodesOf (root : Node) (k : Kind) : List Node := root.preorder.filter (·.kind == k)

/-! ## Issues -/

/-- Something to report: at a span, with the arguments of the message. -/
structure Issue where
  span : Span
  args : List String
  deriving DecidableEq

/-- The finding that reports an issue, unless its place cannot be computed. -/
def Issue.report (u : UnitContext) (desc : Descriptor) (i : Issue) : Except Fault Diagnostic := do
  return desc.diagnostic (← u.location i.span) i.args

/-- **What a rule raises**: wherever it is dispatched and finishes, its findings of a kind are the reports of
the issues. -/
def Rule.Raises (r : Rule) (desc : Descriptor) (issues : NodeContext → List Issue) : Prop :=
  ∀ c : NodeContext, c.node.kind ∈ r.kinds → ∀ ds, r.check c = .ok ds →
    (issues c).mapM (Issue.report c.unit desc) = .ok (ds.filter (·.code == desc.id))

section

variable {u : UnitContext} {desc : Descriptor}

/-- Reporting what several elements give reports what each of them gives. -/
theorem Issue.mapM_report_flatMap {α : Type} {xs : List α} {f : α → List Issue} {g : α → List Diagnostic}
    (h : ∀ x ∈ xs, (f x).mapM (report u desc) = .ok (g x)) :
    (xs.flatMap f).mapM (report u desc) = .ok (xs.flatMap g) := by
  induction xs with
  | nil => rfl
  | cons x xs ih =>
      rw [List.flatMap_cons, List.flatMap_cons, List.mapM_append, h x List.mem_cons_self,
        ih fun y hy => h y (List.mem_cons_of_mem x hy)]
      rfl

/-- All findings that report issues of a kind have its code. -/
theorem Issue.filter_code_of_mapM_report {issues : List Issue} {ds : List Diagnostic}
    (h : issues.mapM (report u desc) = .ok ds) : ds.filter (·.code == desc.id) = ds := by
  induction issues generalizing ds with
  | nil =>
      obtain rfl : [] = ds := Except.ok.inj h
      rfl
  | cons i issues ih =>
      obtain ⟨d, rest, hd, hrest, rfl⟩ := mapM_cons_eq_ok_iff.mp h
      have hcode : (d.code == desc.id) = true := by
        unfold report at hd
        cases hplace : u.location i.span with
        | error e => rw [hplace] at hd; cases hd
        | ok place =>
            rw [hplace] at hd
            obtain rfl : desc.diagnostic place i.args = d := Except.ok.inj hd
            exact beq_self_eq_true _
      rw [List.filter_cons, if_pos hcode, ih hrest]

/-- A rule whose findings are all reports of some issues raises them. -/
theorem Rule.raises_of_report {r : Rule} {issues : NodeContext → List Issue}
    (h : ∀ c ds, r.check c = .ok ds → (issues c).mapM (Issue.report c.unit desc) = .ok ds) :
    r.Raises desc issues := by
  intro c _ ds hds
  have hreport := h c ds hds
  rw [hreport, Issue.filter_code_of_mapM_report hreport]

/-- A rule that is silent outside of a layer, and reports some issues inside, raises these there. -/
theorem Rule.raises_in_layer {r : Rule} {layer : NodeContext → Bool} {issues : NodeContext → List Issue}
    (h : ∀ c, r.check c = if !layer c then pure [] else (issues c).mapM (Issue.report c.unit desc)) :
    r.Raises desc fun c => if layer c then issues c else [] := by
  refine raises_of_report fun c ds hds => ?_
  rw [← hds, h c]
  cases layer c <;> rfl

/-- One issue is reported by looking up its place. -/
theorem Issue.mapM_report_singleton (i : Issue) :
    [i].mapM (report u desc) = do return [desc.diagnostic (← u.location i.span) i.args] := by
  rw [List.mapM_cons, report]
  cases u.location i.span with
  | error e => rfl
  | ok place => rfl

end

/-! ## Limits -/

/-- A limit on nodes of one kind: when a node exceeds it, and what is then said of it. -/
structure Limit where
  kind : Kind
  exceeded : UnitContext → Node → Bool
  args : UnitContext → Node → List String

namespace Limit

/-- What is said of a node that exceeds a limit, at its identifier. -/
def issue (l : Limit) (u : UnitContext) (n : Node) : Issue := ⟨n.identifierSpan, l.args u n⟩

/-- One issue for each node of a unit that exceeds a limit, at any depth. -/
def issues (l : Limit) (u : UnitContext) : List Issue :=
  ((u.unit.root.nodesOf l.kind).filter (l.exceeded u)).map (l.issue u)

/-- In a unit with one node of the kind, at most that node is reported. -/
theorem issues_of_one {l : Limit} {u : UnitContext} {n : Node} (h : u.unit.root.nodesOf l.kind = [n]) :
    l.issues u = if l.exceeded u n then [l.issue u n] else [] := by
  rw [issues, h, List.filter_singleton]
  cases l.exceeded u n <;> rfl

/-- A rule that reports the nodes that exceed a limit, and nothing else. -/
structure EnforcedBy (l : Limit) (r : Rule) (desc : Descriptor) : Prop where
  kinds : r.kinds = [l.kind]
  check {c : NodeContext} {ds : List Diagnostic} : r.check c = .ok ds →
    (if l.exceeded c.unit c.node then do
      return [desc.diagnostic (← c.identifierLocation c.node) (l.args c.unit c.node)]
    else pure []) = .ok ds

theorem EnforcedBy.raises {l : Limit} {r : Rule} {desc : Descriptor} (h : l.EnforcedBy r desc) :
    r.Raises desc fun c => if l.exceeded c.unit c.node then [l.issue c.unit c.node] else [] := by
  refine Rule.raises_of_report fun c ds hds => ?_
  have hcheck := h.check hds
  cases hexceeded : l.exceeded c.unit c.node with
  | true =>
      rw [hexceeded, if_pos rfl] at hcheck
      exact (Issue.mapM_report_singleton _).trans hcheck
  | false =>
      rw [hexceeded] at hcheck
      exact hcheck

end Limit

section

variable {α : Type} {x y : α}

/-- Silence within a limit is speech beyond it. -/
theorem ite_le {count limit : Nat} : (if count ≤ limit then x else y) = if limit < count then y else x := by
  by_cases h : count ≤ limit
  · rw [if_pos h, if_neg (Nat.not_lt_of_le h)]
  · rw [if_neg h, if_pos (Nat.lt_of_not_le h)]

/-- Silence outside of a layer and on some condition. -/
theorem ite_layer {layer : Bool} {p : Prop} [Decidable p] :
    (if !layer then x else if p then x else y) = if layer ∧ ¬p then y else x := by
  cases layer with
  | false => simp
  | true =>
      by_cases hp : p
      · simp [hp]
      · simp [hp]

end

/-! ## Rules and codes -/

namespace Catalog

variable {r : Rule} {desc : Descriptor}

theorem declares_of_mem (hdesc : desc ∈ r.descriptors) : r.declares desc.id = true :=
  List.any_eq_true.mpr ⟨desc, hdesc, beq_self_eq_true _⟩

/-- **A code belongs to one rule** of the built-in ones. -/
theorem filter_declares (hr : r ∈ rules) (hdesc : desc ∈ r.descriptors) :
    rules.filter (·.declares desc.id) = [r] := by
  have hunique : ∀ d ∈ rules.flatMap (·.descriptors),
      ((rules.flatMap (·.descriptors)).filter (·.id == d.id)).length = 1 := by decide +kernel
  have hone := hunique desc (List.mem_flatMap.mpr ⟨r, hr, hdesc⟩)
  obtain ⟨before, after, hsplit⟩ := List.append_of_mem hr
  have hsilent : ∀ rs : List Rule, ((rs.flatMap (·.descriptors)).filter (·.id == desc.id)).length = 0 →
      rs.filter (·.declares desc.id) = [] := by
    intro rs hrs
    rw [List.length_eq_zero_iff, List.filter_eq_nil_iff] at hrs
    rw [List.filter_eq_nil_iff]
    intro x hx hdeclares
    obtain ⟨d, hd, hid⟩ := List.any_eq_true.mp hdeclares
    exact hrs d (List.mem_flatMap.mpr ⟨x, hx, hd⟩) hid
  -- the rule itself accounts for the one descriptor with the code, so the others have none
  have hself : 0 < (r.descriptors.filter (·.id == desc.id)).length :=
    List.length_pos_of_mem (List.mem_filter.mpr ⟨hdesc, beq_self_eq_true _⟩)
  rw [hsplit, List.flatMap_append, List.flatMap_cons, List.filter_append, List.filter_append,
    List.length_append, List.length_append] at hone
  rw [hsplit, List.filter_append, List.filter_cons, if_pos (declares_of_mem hdesc), hsilent before (by omega),
    hsilent after (by omega), List.nil_append]

theorem kinds_nodup (hr : r ∈ rules) : r.kinds.Nodup := by
  have hall : ∀ kinds ∈ rules.map (·.kinds), kinds.Nodup := by decide
  exact hall r.kinds (List.mem_map_of_mem hr)

end Catalog

namespace Setup

variable {s : Setup} {r : Rule} {desc : Descriptor}

/-- A code of a built-in kind is allowed exactly if the kind is switched on and selected. -/
theorem allows_id (hrules : s.rules = Catalog.rules) (hr : r ∈ Catalog.rules) (hdesc : desc ∈ r.descriptors) :
    s.allows desc.id = s.activates desc := by
  have hcatalog : desc ∈ Catalog.descriptors := Catalog.mem_descriptors.mpr ⟨r, hr, hdesc⟩
  rw [Bool.eq_iff_iff, allows, hrules]
  constructor
  · intro h
    obtain ⟨x, hx, h⟩ := List.any_eq_true.mp h
    obtain ⟨d, hd, h⟩ := List.any_eq_true.mp h
    obtain ⟨hid, hactive⟩ := Bool.and_eq_true_iff.mp h
    have hother : d ∈ Catalog.descriptors := Catalog.mem_descriptors.mpr ⟨x, hx, hd⟩
    exact Catalog.eq_of_id_eq hcatalog hother (beq_iff_eq.mp hid) ▸ hactive
  · intro hactive
    exact List.any_eq_true.mpr ⟨r, hr, List.any_eq_true.mpr
      ⟨desc, hdesc, Bool.and_eq_true_iff.mpr ⟨beq_self_eq_true _, hactive⟩⟩⟩

theorem mem_dispatches {root : Node} {o : Occurrence} (hr : r ∈ s.retained) (ho : o ∈ root.occurrences)
    (hkind : o.node.kind ∈ r.kinds) : (r, o) ∈ s.dispatches root :=
  List.mem_flatMap.mpr ⟨o, ho, List.mem_flatMap.mpr ⟨r, hr,
    List.mem_replicate.mpr ⟨(List.count_pos_iff.mpr hkind).ne', rfl⟩⟩⟩

/-- The findings of a kind that are kept of a call. -/
def keptOf (s : Setup) (desc : Descriptor) (c : Call) : List Diagnostic :=
  (s.kept c).filter (·.code == desc.id)

theorem keptOf_eq (s : Setup) (desc : Descriptor) (c : Call) : s.keptOf desc c =
    if c.rule.declares desc.id && s.allows desc.id then c.found.filter (·.code == desc.id) else [] := by
  have hcode : s.keptOf desc c = (c.found.filter (·.code == desc.id)).filter
      fun _ => c.rule.declares desc.id && s.allows desc.id := by
    unfold keptOf kept
    rw [List.filter_filter, List.filter_filter]
    refine List.filter_congr fun d _ => ?_
    by_cases hd : d.code = desc.id
    · rw [keeps, hd, Bool.and_comm]
    · rw [beq_eq_false_iff_ne.mpr hd, Bool.false_and, Bool.and_false]
  rw [hcode]
  cases c.rule.declares desc.id && s.allows desc.id with
  | true => exact List.filter_eq_self.mpr fun _ _ => rfl
  | false => exact List.filter_eq_nil_iff.mpr fun _ _ => Bool.false_ne_true

theorem keptOf_eq_nil {c : Call} (h : (c.rule.declares desc.id && s.allows desc.id) = false) :
    s.keptOf desc c = [] := by
  rw [keptOf_eq, h]
  rfl

/-- Elements that give nothing may be left out. -/
theorem flatMap_filter_of_nil {α β : Type} {p : α → Bool} {f : α → List β} {xs : List α}
    (h : ∀ x, p x = false → f x = []) : (xs.filter p).flatMap f = xs.flatMap f := by
  rw [flatMap_filter_eq]
  refine List.flatMap_congr fun x _ => ?_
  cases hp : p x with
  | true => rfl
  | false => exact (h x hp).symm

/-- **Of a kind that is reported, an occurrence contributes what its one rule found there**, and nothing if
the rule is not dispatched on it. -/
theorem keptOf_callsAt (hrules : s.rules = Catalog.rules) (hr : r ∈ Catalog.rules)
    (hdesc : desc ∈ r.descriptors) (hactive : s.activates desc = true) (u : UnitContext) (o : Occurrence) :
    (s.callsAt u o).flatMap (s.keptOf desc) =
      if o.node.kind ∈ r.kinds then (Call.mk r (o.context u)).found.filter (·.code == desc.id) else [] := by
  have hretained : s.retained.filter (·.declares desc.id) = [r] := by
    have hkept : r.descriptors.any s.activates = true := List.any_eq_true.mpr ⟨desc, hdesc, hactive⟩
    rw [retained, List.filter_filter, List.filter_congr fun _ _ => Bool.and_comm _ _, ← List.filter_filter,
      hrules, Catalog.filter_declares hr hdesc, List.filter_cons, if_pos hkept, List.filter_nil]
  have hsilent : ∀ x : Rule, x.declares desc.id = false →
      (List.replicate (x.kinds.count o.node.kind) (Call.mk x (o.context u))).flatMap (s.keptOf desc) = [] := by
    intro x hx
    refine List.flatMap_eq_nil_iff.mpr fun c hc => ?_
    obtain ⟨-, rfl⟩ := List.mem_replicate.mp hc
    exact keptOf_eq_nil (by rw [hx, Bool.false_and])
  have hcalls : (s.callsAt u o).flatMap (s.keptOf desc) =
      s.retained.flatMap fun x =>
        (List.replicate (x.kinds.count o.node.kind) (Call.mk x (o.context u))).flatMap (s.keptOf desc) :=
    List.flatMap_assoc
  rw [hcalls, ← flatMap_filter_of_nil hsilent, hretained, List.flatMap_singleton]
  by_cases hkind : o.node.kind ∈ r.kinds
  · rw [if_pos hkind, List.count_eq_one_of_mem (Catalog.kinds_nodup hr) hkind, List.replicate_one,
      List.flatMap_singleton, keptOf_eq, Catalog.declares_of_mem hdesc, allows_id hrules hr hdesc, hactive]
    rfl
  · rw [if_neg hkind, List.count_eq_zero_of_not_mem hkind]
    rfl

/-! ## Analyses -/

/-- **The findings of a kind are the reports of the issues**, one for each, in the order of reports. If the kind
is switched off or not selected there are none. -/
def Reports (s : Setup) (u : UnitContext) (desc : Descriptor) (issues : List Issue) (ds : List Diagnostic) : Prop :=
  ∃ found, (if s.activates desc then issues else []).mapM (Issue.report u desc) = .ok found ∧
    ds.filter (·.code == desc.id) = Diagnostic.sort found

/-- Of a kind that is reported, the findings are those that report the issues, if these come in order. -/
theorem Reports.filter_eq {u : UnitContext} {issues : List Issue} {ds found : List Diagnostic}
    (h : s.Reports u desc issues ds) (hactive : s.activates desc = true)
    (hfound : issues.mapM (Issue.report u desc) = .ok found) (hordered : found.Pairwise fun a b => a.le b) :
    ds.filter (·.code == desc.id) = found := by
  obtain ⟨reported, hreported, hsorted⟩ := h
  rw [if_pos hactive, hfound] at hreported
  obtain rfl := Except.ok.inj hreported
  rw [hsorted, Diagnostic.sort_of_ordered hordered]

/-- If nothing is switched and nothing selected, every kind is reported. -/
theorem activates_of_unrestricted (hswitches : s.config.switches = []) (hselection : s.selection = [])
    (desc : Descriptor) : s.activates desc = true := by
  simp [activates, selects, Config.isEnabled, Config.isOn, hswitches, hselection]

/-- What the checks of an analysis with the analyzer of a setup see of a unit. -/
def unitContext (s : Setup) (unit : CompilationUnit) (model : Model) : UnitContext :=
  ⟨unit, model, s.effectiveSettings⟩

variable {unit : CompilationUnit} {model : Model} {ds : List Diagnostic}

/-- What is kept of the calls for a unit, of one kind, is put together from the occurrences. -/
theorem filter_code_kept (s : Setup) (desc : Descriptor) (unit : CompilationUnit) (model : Model) :
    ((s.calls unit model).flatMap s.kept).filter (·.code == desc.id) =
      unit.root.occurrences.flatMap fun o => (s.callsAt (s.unitContext unit model) o).flatMap (s.keptOf desc) := by
  rw [List.filter_flatMap, calls, List.flatMap_assoc]
  rfl

/-- In an analysis that finishes, a rule with a kind that is reported finishes wherever it is dispatched. -/
theorem exists_run_eq_ok (hrules : s.rules = Catalog.rules) (hr : r ∈ Catalog.rules) (hdesc : desc ∈ r.descriptors)
    (hactive : s.activates desc = true) (hds : s.analyzer.analyzeUnit unit model = .ok ds) {o : Occurrence}
    (ho : o ∈ unit.root.occurrences) (hkind : o.node.kind ∈ r.kinds) :
    ∃ es, (Call.mk r (o.context (s.unitContext unit model))).run = .ok es := by
  have hretained : r ∈ s.retained :=
    List.mem_filter.mpr ⟨hrules ▸ hr, List.any_eq_true.mpr ⟨desc, hdesc, hactive⟩⟩
  exact (s.exists_ok_iff unit model).mp ⟨ds, hds⟩ ⟨r, o⟩ (mem_dispatches hretained ho hkind)

/-- **An analysis with the built-in rules reports what its rules raise**: if a rule raises some issues, and the
analysis of a unit finishes, then its findings of the kind are exactly the reports of the issues at the nodes
the rule is dispatched on. -/
theorem reports_of_raises (hrules : s.rules = Catalog.rules) (hr : r ∈ Catalog.rules)
    (hdesc : desc ∈ r.descriptors) {issues : NodeContext → List Issue} (hraises : r.Raises desc issues)
    (hds : s.analyzer.analyzeUnit unit model = .ok ds) :
    s.Reports (s.unitContext unit model) desc
      ((unit.root.occurrences.filter fun o => o.node.kind ∈ r.kinds).flatMap fun o =>
        issues (o.context (s.unitContext unit model))) ds := by
  obtain ⟨-, hsorted⟩ := s.analyzeUnit_eq_ok_iff.mp hds
  rw [Reports, hsorted, ← Diagnostic.sort_filter, filter_code_kept]
  cases hactive : s.activates desc with
  | false =>
      refine ⟨[], rfl, congrArg _ (List.flatMap_eq_nil_iff.mpr fun o _ => ?_)⟩
      refine List.flatMap_eq_nil_iff.mpr fun c _ => keptOf_eq_nil ?_
      rw [allows_id hrules hr hdesc, hactive, Bool.and_false]
  | true =>
      refine ⟨_, ?_, rfl⟩
      rw [if_pos rfl]
      simp only [keptOf_callsAt hrules hr hdesc hactive]
      rw [← flatMap_filter_of_nil (p := fun o : Occurrence => decide (o.node.kind ∈ r.kinds))
        fun o ho => if_neg (of_decide_eq_false ho)]
      refine Issue.mapM_report_flatMap fun o ho => ?_
      obtain ⟨ho, hkind⟩ := List.mem_filter.mp ho
      have hkind := of_decide_eq_true hkind
      obtain ⟨es, hrun⟩ := exists_run_eq_ok hrules hr hdesc hactive hds ho hkind
      rw [if_pos hkind, Call.found_of_run hrun]
      exact hraises (o.context (s.unitContext unit model)) hkind es hrun

/-- The same for a rule that is dispatched on one kind of node and raises issues that depend on the node alone,
not on where it stands. -/
theorem reports_nodes (hrules : s.rules = Catalog.rules) (hr : r ∈ Catalog.rules)
    (hdesc : desc ∈ r.descriptors) {k : Kind} (hkinds : r.kinds = [k]) (issues : UnitContext → Node → List Issue)
    (hraises : r.Raises desc fun c => issues c.unit c.node)
    (hds : s.analyzer.analyzeUnit unit model = .ok ds) :
    s.Reports (s.unitContext unit model) desc
      ((unit.root.nodesOf k).flatMap (issues (s.unitContext unit model))) ds := by
  have hnodes : ((unit.root.occurrences.filter fun o => o.node.kind ∈ r.kinds).flatMap fun o =>
      issues (s.unitContext unit model) o.node) =
      (unit.root.nodesOf k).flatMap (issues (s.unitContext unit model)) := by
    rw [Node.nodesOf, ← Node.map_node_occurrences, List.filter_map, List.flatMap_map]
    congr 1
    refine List.filter_congr fun o _ => ?_
    rw [hkinds, Bool.eq_iff_iff]
    simp
  rw [← hnodes]
  exact reports_of_raises hrules hr hdesc hraises hds

/-- **A limit is enforced exactly**: one finding for each node of the unit that exceeds it, and no others. -/
theorem reports_limit (hrules : s.rules = Catalog.rules) (hr : r ∈ Catalog.rules) (hdesc : desc ∈ r.descriptors)
    {l : Limit} (h : l.EnforcedBy r desc) (hds : s.analyzer.analyzeUnit unit model = .ok ds) :
    s.Reports (s.unitContext unit model) desc (l.issues (s.unitContext unit model)) ds := by
  rw [Limit.issues, List.map_eq_flatMap, flatMap_filter_eq]
  exact reports_nodes hrules hr hdesc h.kinds (fun u n => if l.exceeded u n then [l.issue u n] else [])
    h.raises hds

end Setup

namespace Sample

/-- A finding of a kind, with its message written out. -/
def issued (desc : Descriptor) (file : String) (line column : Nat) (message : String) : Diagnostic where
  code := desc.id
  rule := desc.name
  location := { file, line, column }
  message

/-- The built-in rules under tokens and limits of a house's own; one rule is switched off. -/
def house : Setup where
  rules := Catalog.rules
  config :=
    { naming := { model := "Modelo", controller := " Mando ", repository := "ALMACEN", entity := "Tbl" }
      thresholds := { maxQueryLogicKeywords := 2, maxRepositoryEntities := 2 }
      switches := [("god-class", some false)] }

theorem build_house : house.build = .ok house.analyzer :=
  house.build_eq_ok_iff.mpr ⟨by decide +kernel, rfl⟩

end Sample

end LayerLint
