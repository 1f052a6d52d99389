import LayerLint.Proofs.Sorting
import LayerLint.Proofs.Walk

/-!
# `Proofs.Calls` — the analysis of a unit as a list of calls

What an analyzer does with a unit is fixed by what it was built from: the rules that are retained are
called on the occurrences of the tree, and what they find is filtered by code and sorted. Nothing of the
analyzer's own tables is needed to say so.

## Contents
- **Building.** `Setup.analyzer`, the analyzer a setup builds if its settings are usable.
- **Calls.** `Call`, `Setup.retained`, `Setup.calls`, `Setup.keeps`.
- **Analysis.** `analyzeUnit_eq_outcomes`: the analysis gathers the outcomes of the calls. From it
  `analyzeUnit_refines_calls`: when an analysis fails, how, and what it returns otherwise.
-/

namespace LayerLint

/-! ## Building -/

namespace Setup

variable (s : Setup)

/-- The analyzer of a setup whose settings are usable. -/
def analyzer : Analyzer where
  rules := s.activeRules
  dispatch := Dispatch.ofRules s.activeRules
  activeCodes := s.activeRules.flatMap s.codesOf
  settings := s.effectiveSettings

theorem build_eq_ok_iff {a : Analyzer} :
    s.build = .ok a ↔ s.effectiveSettings.firstError? = none ∧ a = s.analyzer := by
  have hbuild : s.build = (do s.effectiveSettings.validate; return s.analyzer) := rfl
  rw [hbuild]
  unfold Settings.validate
  cases s.effectiveSettings.firstError? with
  | some e => exact ⟨nofun, nofun⟩
  | none =>
      constructor
      · intro h
        exact ⟨rfl, (Except.ok.inj h).symm⟩
      · rintro ⟨-, rfl⟩
        rfl

/-! ## Calls -/

/-- The rules with a descriptor that is switched on and selected, in order of registration. -/
def retained : List Rule := s.rules.filter fun r => r.descriptors.any s.activates

theorem activeRules_eq : s.activeRules = s.retained := by
  unfold activeRules retained
  congr 1
  funext r
  rw [codesOf, List.isEmpty_map, Bool.eq_iff_iff]
  simp

/-- Some rule declares the code by a descriptor that is switched on and selected. -/
def allows (code : String) : Bool :=
  s.rules.any fun r => r.descriptors.any fun d => d.id == code && s.activates d

theorem contains_activeCodes (code : String) : s.analyzer.activeCodes.contains code = s.allows code := by
  rw [Bool.eq_iff_iff]
  simp only [analyzer, activeRules_eq, retained, codesOf, allows, List.contains_iff_mem,
    List.mem_flatMap, List.mem_filter, List.mem_map, List.any_eq_true, Bool.and_eq_true, beq_iff_eq]
  constructor
  · rintro ⟨r, ⟨hr, -⟩, d, ⟨hd, hact⟩, hid⟩
    exact ⟨r, hr, d, hd, hid, hact⟩
  · rintro ⟨r, hr, d, hd, hid, hact⟩
    exact ⟨r, ⟨hr, d, hd, hact⟩, d, ⟨hd, hact⟩, hid⟩

/-- A finding of a rule is kept if the rule declares its code and the code is active. -/
def keeps (r : Rule) (d : Diagnostic) : Bool := r.declares d.code && s.allows d.code

end Setup

/-- A rule applied to a node. -/
structure Call where
  rule : Rule
  context : NodeContext

namespace Call

/-- What the check answers. -/
def run (c : Call) : Except Fault (List Diagnostic) := c.rule.check c.context

/-- What the check found; nothing if it failed. -/
def found (c : Call) : List Diagnostic :=
  match c.run with
  | .ok ds => ds
  | .error _ => []

theorem found_of_run {c : Call} {ds : List Diagnostic} (h : c.run = .ok ds) : c.found = ds := by
  unfold found
  rw [h]

/-- That calls finish can be computed. -/
theorem exists_ok_of_all_isOk {cs : List Call} (h : cs.all (·.run.isOk) = true) :
    ∀ c ∈ cs, ∃ ds, c.run = .ok ds := by
  intro c hc
  have hok := List.all_eq_true.mp h c hc
  cases hrun : c.run with
  | ok ds => exact ⟨ds, rfl⟩
  | error e => rw [hrun] at hok; cases hok

end Call

namespace Setup

/-- Mapping what is left of a list is leaving out what comes from the rest. -/
theorem flatMap_filter_eq {α β : Type} (p : α → Bool) (g : α → List β) (xs : List α) :
    (xs.filter p).flatMap g = xs.flatMap fun x => if p x then g x else [] := by
  induction xs with
  | nil => rfl
  | cons x xs ih =>
      rw [List.filter_cons, List.flatMap_cons]
      cases hx : p x with
      | true => rw [if_pos rfl, if_pos rfl, List.flatMap_cons, ih]
      | false => rw [if_neg Bool.false_ne_true, if_neg Bool.false_ne_true, List.nil_append, ih]

variable (s : Setup)

/-- The calls at an occurrence: the retained rules in order, each as often as it names the kind of the
node. -/
def callsAt (u : UnitContext) (o : Occurrence) : List Call :=
  s.retained.flatMap fun r =>
    List.replicate (r.kinds.count o.node.kind) ⟨r, ⟨u, o.node, o.ancestors⟩⟩

/-- **The calls for a unit**: those at each occurrence of its tree, in pre-order. -/
def calls (unit : CompilationUnit) (model : Model) : List Call :=
  unit.root.occurrences.flatMap (s.callsAt ⟨unit, model, s.effectiveSettings⟩)

/-- The findings of a call that are kept. -/
def kept (c : Call) : List Diagnostic := c.found.filter (s.keeps c.rule)

/-- What a call contributes. -/
def outcome (c : Call) : Except Fault (List Diagnostic) := do return (← c.run).filter (s.keeps c.rule)

theorem outcome_of_run_ok {c : Call} (h : ∃ ds, c.run = .ok ds) : s.outcome c = .ok (s.kept c) := by
  obtain ⟨ds, hds⟩ := h
  unfold outcome kept
  rw [hds, Call.found_of_run hds]
  rfl

theorem outcome_of_run_error {c : Call} {e : Fault} (h : c.run = .error e) : s.outcome c = .error e := by
  unfold outcome
  rw [h]
  rfl

/-! ## Analysis -/

/-- The rule at a position in the table is run as a call. -/
theorem runRule_eq_outcome {r : Rule} {i : Nat} (h : s.retained[i]? = some r) (c : NodeContext) :
    s.analyzer.runRule c i = s.outcome ⟨r, c⟩ := by
  have hi : s.analyzer.rules[i]? = some r := by
    show s.activeRules[i]? = some r
    rw [activeRules_eq, h]
  unfold Analyzer.runRule
  rw [hi]
  simp only [contains_activeCodes]
  rfl

/-- What the table makes of an occurrence are the calls there. -/
theorem findingsAt_eq_outcomes (u : UnitContext) (o : Occurrence) :
    s.analyzer.findingsAt u o = gather s.outcome (s.callsAt u o) := by
  have hpos : s.analyzer.dispatch.positionsFor o.node.kind =
      s.retained.zipIdx.flatMap fun p => List.replicate (p.1.kinds.count o.node.kind) p.2 := by
    rw [← Setup.activeRules_eq]
    exact Dispatch.positionsFor_ofRules s.activeRules o.node.kind
  have hrules : s.retained = s.retained.zipIdx.map Prod.fst :=
    (List.zipIdx_map_fst 0 s.retained).symm
  rw [Analyzer.findingsAt, hpos, gather_flatMap, callsAt, gather_flatMap]
  -- Both sides now go through the retained rules; give the right one the positions as well.
  conv => rhs; rw [hrules, gather_map]
  apply gather_congr
  rintro ⟨r, i⟩ hri
  have hi : s.retained[i]? = some r := List.mk_mem_zipIdx_iff_getElem?.mp hri
  exact gather_replicate_congr (s.runRule_eq_outcome hi _) _

/-- The analysis of a unit gathers the outcomes of its calls and sorts them. -/
theorem analyzeUnit_eq_outcomes (unit : CompilationUnit) (model : Model) :
    s.analyzer.analyzeUnit unit model = do
      return Diagnostic.sort (← gather s.outcome (s.calls unit model)) := by
  have hsettings : s.analyzer.settings = s.effectiveSettings := rfl
  rw [Analyzer.analyzeUnit_eq_gather, hsettings, calls, gather_flatMap,
    gather_congr fun o _ => s.findingsAt_eq_outcomes ⟨unit, model, s.effectiveSettings⟩ o]

/-- If every call finishes, the analysis returns what is kept of the calls, sorted. -/
theorem analyzeUnit_of_all_ok {unit : CompilationUnit} {model : Model}
    (h : ∀ c ∈ s.calls unit model, ∃ ds, c.run = .ok ds) :
    s.analyzer.analyzeUnit unit model = .ok (Diagnostic.sort ((s.calls unit model).flatMap s.kept)) := by
  rw [analyzeUnit_eq_outcomes, gather_eq_ok fun c hc => s.outcome_of_run_ok (h c hc)]
  rfl

/-- The first call that fails decides how the analysis fails. -/
theorem analyzeUnit_of_first_error {unit : CompilationUnit} {model : Model} {before after : List Call}
    {c : Call} {e : Fault} (hcalls : s.calls unit model = before ++ c :: after)
    (hbefore : ∀ b ∈ before, ∃ ds, b.run = .ok ds) (hc : c.run = .error e) :
    s.analyzer.analyzeUnit unit model = .error e := by
  have hout : ∀ b ∈ before, ∃ ds, s.outcome b = .ok ds :=
    fun b hb => ⟨_, s.outcome_of_run_ok (hbefore b hb)⟩
  rw [analyzeUnit_eq_outcomes, hcalls, gather_eq_error hout (s.outcome_of_run_error hc)]
  rfl

theorem analyzeUnit_eq_ok_iff {unit : CompilationUnit} {model : Model} {ds : List Diagnostic} :
    s.analyzer.analyzeUnit unit model = .ok ds ↔
      (∀ c ∈ s.calls unit model, ∃ es, c.run = .ok es) ∧
        ds = Diagnostic.sort ((s.calls unit model).flatMap s.kept) := by
  -- Either no call fails or there is a first one that does, and both lemmas above are equations.
  rcases all_ok_or_first_error Call.run (s.calls unit model) with
    hall | ⟨before, c, after, e, hcalls, hbefore, hc⟩
  · rw [s.analyzeUnit_of_all_ok hall, Except.ok.injEq]
    exact ⟨fun h => ⟨hall, h.symm⟩, fun h => h.2.symm⟩
  · rw [s.analyzeUnit_of_first_error hcalls hbefore hc]
    refine ⟨nofun, fun h => ?_⟩
    obtain ⟨es, hes⟩ := h.1 c (by rw [hcalls]; simp)
    rw [hc] at hes
    cases hes

theorem analyzeUnit_eq_error_iff {unit : CompilationUnit} {model : Model} {e : Fault} :
    s.analyzer.analyzeUnit unit model = .error e ↔
      ∃ before c after, s.calls unit model = before ++ c :: after ∧
        (∀ b ∈ before, ∃ ds, b.run = .ok ds) ∧ c.run = .error e := by
  constructor
  · intro h
    rcases all_ok_or_first_error Call.run (s.calls unit model) with
      hall | ⟨before, c, after, e', hcalls, hbefore, hc⟩
    · rw [s.analyzeUnit_of_all_ok hall] at h
      cases h
    · rw [s.analyzeUnit_of_first_error hcalls hbefore hc] at h
      exact ⟨before, c, after, hcalls, hbefore, hc.trans h⟩
  · rintro ⟨before, c, after, hcalls, hbefore, hc⟩
    exact s.analyzeUnit_of_first_error hcalls hbefore hc

end Setup

/-- **The analysis of a unit refines its list of calls.** For an analyzer built from any setup: the
positions of the tree are visited in pre-order, each once; the analysis fails exactly if some call
fails, and then as the first such call does; otherwise it returns the stable sort of the findings that
are declared by their rule and active. -/
theorem analyzeUnit_refines_calls {s : Setup} {a : Analyzer} (h : s.build = .ok a)
    (unit : CompilationUnit) (model : Model) :
    (∀ p, p ∈ unit.root.positions ↔ (unit.root.at? p).isSome) ∧
    unit.root.positions.Pairwise (· < ·) ∧
    ((∃ e, a.analyzeUnit unit model = .error e) ↔ ∃ c ∈ s.calls unit model, ∃ e, c.run = .error e) ∧
    (∀ e, a.analyzeUnit unit model = .error e ↔
      ∃ before c after, s.calls unit model = before ++ c :: after ∧
        (∀ b ∈ before, ∃ ds, b.run = .ok ds) ∧ c.run = .error e) ∧
    (∀ ds, a.analyzeUnit unit model = .ok ds ↔
      (∀ c ∈ s.calls unit model, ∃ es, c.run = .ok es) ∧
        Diagnostic.IsStableSort ((s.calls unit model).flatMap s.kept) ds) := by
  obtain ⟨-, rfl⟩ := s.build_eq_ok_iff.mp h
  refine ⟨fun p => Node.mem_positions, Node.positions_increasing unit.root, ?_, ?_, ?_⟩
  · constructor
    · rintro ⟨e, he⟩
      obtain ⟨before, c, after, hcalls, -, hc⟩ := s.analyzeUnit_eq_error_iff.mp he
      exact ⟨c, by rw [hcalls]; simp, e, hc⟩
    · rintro ⟨c, hc, e, he⟩
      cases hres : s.analyzer.analyzeUnit unit model with
      | error e' => exact ⟨e', rfl⟩
      | ok ds =>
          obtain ⟨es, hes⟩ := (s.analyzeUnit_eq_ok_iff.mp hres).1 c hc
          rw [he] at hes
          cases hes
  · intro e
    exact s.analyzeUnit_eq_error_iff
  · intro ds
    rw [s.analyzeUnit_eq_ok_iff, Diagnostic.isStableSort_iff]

namespace Sample

/-- A service whose class creates a data-access object in a method. -/
def unit : CompilationUnit where
  path := "Pedidos.wsr/Pedido.cs"
  root := .mk { kind := .compilationUnit }
    [.mk { kind := .classDecl, identifier := some "Pedido", span := .lines 1 600 }
      [.mk { kind := .methodDecl } [.mk { kind := .objectCreation, text := some "ClienteDal" } []]]]

/-- A host that resolves nothing. -/
def model : Model := SymbolTable.model {}

/-- Two rules, of which the first is switched off and the second is selected by one of its codes. -/
def setup : Setup where
  rules := [Catalog.godClass, Catalog.architectureViolation]
  config := { switches := [("god-class", some false)] }
  selection := ["ra15-001", "RA16-001"]

theorem build_setup : setup.build = .ok setup.analyzer :=
  setup.build_eq_ok_iff.mpr ⟨by decide +kernel, rfl⟩

end Sample

/-- The second rule is dispatched although the first is gone, and sees the class around the node. -/
theorem analyzeUnit_refines_calls_sample :
    ∃ a, Sample.setup.build = .ok a ∧ a.analyzeUnit Sample.unit Sample.model = .ok
      [{ code := "RA15-001"
         rule := "architecture-violation"
         location := { file := "Pedidos.wsr/Pedido.cs", line := 0, column := 0 }
         message := "Service classes must not instantiate the data-access object 'ClienteDal' directly" }] := by
  refine ⟨_, Sample.build_setup,
    ((analyzeUnit_refines_calls Sample.build_setup Sample.unit Sample.model).2.2.2.2 _).mpr ⟨?_, ?_⟩⟩
  · exact Call.exists_ok_of_all_isOk (by decide +kernel)
  · rw [Diagnostic.isStableSort_iff, ← Diagnostic.sort_of_ordered (List.pairwise_singleton _ _)]
    exact congrArg Diagnostic.sort (by decide +kernel)

end LayerLint
