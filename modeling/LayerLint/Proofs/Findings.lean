import LayerLint.Proofs.Answers

/-!
# `Proofs.Findings` — no finding without a rule, an argument and a place

Every finding of an analysis with the built-in rules can be traced back: to the one built-in kind that has
its code, which is switched on and selected; to arguments that fill the message of that kind; and to a node
of the tree.

## Contents
- **Kinds.** Codes are unique among the built-in kinds.
- **Findings.** `Setup.exists_call_of_mem`, and from it `catalog_findings`.
-/

namespace LayerLint

/-! ## Kinds -/

namespace Catalog

theorem mem_descriptors {d : Descriptor} : d ∈ descriptors ↔ ∃ r ∈ rules, d ∈ r.descriptors := by
  rw [descriptors, List.mem_mergeSort, List.mem_flatMap]

/-- **Codes are unique** among the built-in kinds of findings. -/
theorem filter_id_eq {d : Descriptor} (hd : d ∈ descriptors) : descriptors.filter (·.id == d.id) = [d] := by
  have hunique : ∀ d ∈ rules.flatMap (·.descriptors),
      (rules.flatMap (·.descriptors)).filter (·.id == d.id) = [d] := by decide +kernel
  have hperm : descriptors.Perm (rules.flatMap (·.descriptors)) := List.mergeSort_perm _ _
  have hfilter := hperm.filter (·.id == d.id)
  rw [hunique d (hperm.mem_iff.mp hd)] at hfilter
  exact List.perm_singleton.mp hfilter

theorem eq_of_id_eq {d e : Descriptor} (hd : d ∈ descriptors) (he : e ∈ descriptors) (h : e.id = d.id) :
    e = d := by
  have hmem : e ∈ descriptors.filter (·.id == d.id) := List.mem_filter.mpr ⟨he, beq_iff_eq.mpr h⟩
  rw [filter_id_eq hd] at hmem
  exact List.mem_singleton.mp hmem

end Catalog

/-! ## Findings -/

/-- A place names the file of the unit. -/
theorem UnitContext.file_of_location {c : UnitContext} {span : Span} {l : Location}
    (h : c.location span = .ok l) : l.file = c.unit.path := by
  unfold location at h
  cases hstart : offsetFor c.unit.text.toList span.startLine span.startColumn with
  | error e => rw [hstart] at h; cases h
  | ok start =>
      cases hstop : offsetFor c.unit.text.toList span.endLine span.endColumn with
      | error e => rw [hstart, hstop] at h; cases h
      | ok stop =>
          rw [hstart, hstop] at h
          cases h
          rfl

/-- A finding of an analysis was made and kept by some call. -/
theorem Setup.exists_call_of_mem {s : Setup} {unit : CompilationUnit} {model : Model}
    {ds : List Diagnostic} {d : Diagnostic} (h : s.analyzer.analyzeUnit unit model = .ok ds) (hd : d ∈ ds) :
    ∃ c ∈ s.calls unit model, ∃ found, c.run = .ok found ∧ d ∈ found ∧ s.keeps c.rule d = true := by
  obtain ⟨hok, rfl⟩ := s.analyzeUnit_eq_ok_iff.mp h
  rw [Diagnostic.sort, List.mem_mergeSort] at hd
  obtain ⟨c, hc, hd⟩ := List.mem_flatMap.mp hd
  obtain ⟨hfound, hkeeps⟩ := List.mem_filter.mp hd
  obtain ⟨found, hrun⟩ := hok c hc
  rw [Call.found_of_run hrun] at hfound
  exact ⟨c, hc, found, hrun, hfound, hkeeps⟩

/-- **No finding is an orphan.** For a finding of an analysis with built-in rules there is exactly one
built-in kind with its code; the kind is switched on and selected, and the finding has its name and its
message, with every placeholder filled. It is in the file of the unit, at the span of a node of the tree or
of its identifier: the node that a rule with this kind was dispatched on, a direct member of it, or a
literal inside one of its method bodies. -/
theorem catalog_findings {s : Setup} {a : Analyzer} (hrules : ∀ r ∈ s.rules, r ∈ Catalog.rules)
    (hbuild : s.build = .ok a) {unit : CompilationUnit} {model : Model} {ds : List Diagnostic}
    (hds : a.analyzeUnit unit model = .ok ds) {d : Diagnostic} (hd : d ∈ ds) :
    ∃ desc, Catalog.descriptors.filter (·.id == d.code) = [desc] ∧
      s.config.isEnabled desc.name desc.id = true ∧ s.selects desc = true ∧
      d.rule = desc.name ∧
      (∃ args, Message.Filled args desc.message.toList d.message.toList) ∧
      d.location.file = unit.path ∧
      ∃ r ∈ s.rules, desc ∈ r.descriptors ∧ ∃ n ∈ unit.root.preorder, n.kind ∈ r.kinds ∧
        ∃ t ∈ unit.root.preorder, n.Site t ∧ ∃ span ∈ t.spans,
          UnitContext.location ⟨unit, model, a.settings⟩ span = .ok d.location := by
  obtain ⟨-, rfl⟩ := s.build_eq_ok_iff.mp hbuild
  obtain ⟨c, hc, found, hrun, hfound, hkeeps⟩ := s.exists_call_of_mem hds hd
  obtain ⟨hrule, hunit, hnode, hkind⟩ := Setup.of_mem_calls hc
  have hanswers := Catalog.answersAlways (hrules _ hrule) c.context
  rw [Call.run] at hrun
  rw [hrun] at hanswers
  obtain ⟨desc, hdesc, args, location, t, span, hspan, hsite, hlocation, hargs, rfl⟩ :=
    hanswers.reported d hfound
  have hcatalog : desc ∈ Catalog.descriptors := Catalog.mem_descriptors.mpr ⟨_, hrules _ hrule, hdesc⟩
  -- the code is active through some kind that is switched on; by its code that kind is this one
  have hactive : s.activates desc = true := by
    obtain ⟨-, hallows⟩ := Bool.and_eq_true_iff.mp hkeeps
    obtain ⟨r, hr, hany⟩ := List.any_eq_true.mp hallows
    obtain ⟨other, hother, hactivates⟩ := List.any_eq_true.mp hany
    obtain ⟨hid, hactivates⟩ := Bool.and_eq_true_iff.mp hactivates
    have hmem : other ∈ Catalog.descriptors := Catalog.mem_descriptors.mpr ⟨r, hrules r hr, hother⟩
    exact Catalog.eq_of_id_eq hcatalog hmem (beq_iff_eq.mp hid) ▸ hactivates
  obtain ⟨henabled, hselected⟩ := Bool.and_eq_true_iff.mp hactive
  rw [hunit] at hlocation
  refine ⟨desc, Catalog.filter_id_eq hcatalog, henabled, hselected, rfl, ⟨args, Message.filled_fill hargs⟩,
    UnitContext.file_of_location hlocation, c.rule, hrule, hdesc, c.context.node, hnode, hkind, t, ?_, hsite,
    span, hspan, hlocation⟩
  exact Node.preorder_trans hnode hsite.mem_preorder

namespace Sample

/-- What is found in the service that creates a data-access object. -/
def finding : Diagnostic where
  code := "RA15-001"
  rule := "architecture-violation"
  location := { file := "Pedidos.wsr/Pedido.cs", line := 0, column := 0 }
  message := "Service classes must not instantiate the data-access object 'ClienteDal' directly"

theorem exists_finding : ∃ ds, setup.analyzer.analyzeUnit unit model = .ok ds ∧ finding ∈ ds := by
  refine ⟨_, setup.analyzeUnit_of_all_ok (Call.exists_ok_of_all_isOk (by decide +kernel)), ?_⟩
  rw [Diagnostic.sort, List.mem_mergeSort]
  decide +kernel

theorem setup_rules : ∀ r ∈ setup.rules, r ∈ Catalog.rules := by
  simp [setup, Catalog.rules]

end Sample

theorem catalog_findings_sample :
    ∃ desc, Catalog.descriptors.filter (·.id == "RA15-001") = [desc] ∧ Sample.setup.selects desc = true ∧
      ∃ args, Message.Filled args desc.message.toList Sample.finding.message.toList := by
  obtain ⟨ds, hds, hmem⟩ := Sample.exists_finding
  obtain ⟨desc, hunique, -, hselected, -, hfilled, -⟩ :=
    catalog_findings Sample.setup_rules Sample.build_setup hds hmem
  exact ⟨desc, hunique, hselected, hfilled⟩

end LayerLint
