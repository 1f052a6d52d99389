import LayerLint.Proofs.Answers

/-!
# `Proofs.Comparison` — two analyses side by side

Which rule meets which node depends on the tree and on what is switched on; limits and symbols come in
only when the rule is called. Two analyses that differ in these therefore make their calls in step, and
what relates the outcomes of each pair of calls relates the two results.

## Contents
- **Dispatches.** `Setup.dispatches`, the rules with the occurrences they meet; `calls_eq_map`.
- **Matching.** `Matched`: findings that are matched, one by one, by findings with the same code and the
  same value of some feature.
- **Outcomes.** `Covers`, the relation between two outcomes of a call; `countP_le_of_covers` carries it
  over to analyses.
-/

namespace LayerLint

/-! ## Dispatches -/

/-- What a check at an occurrence sees. -/
def Occurrence.context (o : Occurrence) (u : UnitContext) : NodeContext := ⟨u, o.node, o.ancestors⟩

namespace Setup

variable (s : Setup)

/-- The retained rules with the occurrences of a tree they are called on, in the order of the calls. -/
def dispatches (root : Node) : List (Rule × Occurrence) :=
  root.occurrences.flatMap fun o =>
    s.retained.flatMap fun r => List.replicate (r.kinds.count o.node.kind) (r, o)

/-- **The calls for a unit are its dispatches**, each with the unit, its symbols and the settings. -/
theorem calls_eq_map (unit : CompilationUnit) (model : Model) :
    s.calls unit model = (s.dispatches unit.root).map fun x =>
      ⟨x.1, x.2.context ⟨unit, model, s.effectiveSettings⟩⟩ := by
  unfold calls callsAt dispatches
  simp only [List.map_flatMap, List.map_replicate]
  rfl

theorem of_mem_dispatches {root : Node} {x : Rule × Occurrence} (h : x ∈ s.dispatches root) :
    x.1 ∈ s.rules ∧ x.2 ∈ root.occurrences ∧ x.2.node.kind ∈ x.1.kinds := by
  obtain ⟨o, ho, hx⟩ := List.mem_flatMap.mp h
  obtain ⟨r, hr, hx⟩ := List.mem_flatMap.mp hx
  obtain ⟨hcount, rfl⟩ := List.mem_replicate.mp hx
  exact ⟨(List.mem_filter.mp hr).1, ho, List.count_pos_iff.mp (Nat.pos_of_ne_zero hcount)⟩

/-- The analysis of a unit finishes exactly if every check that is dispatched does. -/
theorem exists_ok_iff (unit : CompilationUnit) (model : Model) :
    (∃ ds, s.analyzer.analyzeUnit unit model = .ok ds) ↔
      ∀ x ∈ s.dispatches unit.root, ∃ ds,
        x.1.check (x.2.context ⟨unit, model, s.effectiveSettings⟩) = .ok ds := by
  simp only [s.analyzeUnit_eq_ok_iff, exists_and_left, exists_eq, and_true, calls_eq_map,
    List.forall_mem_map]
  rfl

end Setup

/-- What the check for markup in controllers reads: the unit, the tokens and the class. -/
theorem Catalog.check_controllerView_congr {c c' : NodeContext} (hunit : c'.unit.unit = c.unit.unit)
    (hvocabulary : c'.vocabulary = c.vocabulary) (hnode : c'.node = c.node) :
    controllerView.check c' = controllerView.check c := by
  have htext : c'.unit.loweredText = c.unit.loweredText := by
    unfold UnitContext.loweredText
    rw [hunit]
  have hplace : c'.identifierLocation c.node = c.identifierLocation c.node := by
    unfold NodeContext.identifierLocation UnitContext.location
    rw [hunit]
  unfold controllerView
  dsimp only
  rw [htext, hvocabulary, hnode, hplace]

/-! ## Matching -/

/-- What is found at some elements is found, in order, by a search that finds it at these and others. -/
theorem filterMap_sublist_filterMap {α β : Type} {f g : α → Option β} {xs : List α}
    (h : ∀ x b, f x = some b → g x = some b) : (xs.filterMap f).Sublist (xs.filterMap g) := by
  induction xs with
  | nil => exact .slnil
  | cons x xs ih =>
      cases hf : f x with
      | some b =>
          rw [List.filterMap_cons_some hf, List.filterMap_cons_some (h x b hf)]
          exact ih.cons_cons b
      | none =>
          rw [List.filterMap_cons_none hf]
          cases hg : g x with
          | none => rwa [List.filterMap_cons_none hg]
          | some b =>
              rw [List.filterMap_cons_some hg]
              exact ih.cons b

section

variable {κ : Type} {feature : Diagnostic → κ} {ds es : List Diagnostic}

/-- **The findings are matched** by some of the others, in order: by findings with the same code and the
same value of a feature. -/
def Matched (feature : Diagnostic → κ) (ds es : List Diagnostic) : Prop :=
  (ds.map fun d => (d.code, feature d)).Sublist (es.map fun d => (d.code, feature d))

namespace Matched

theorem refl (ds : List Diagnostic) : Matched feature ds ds := List.Sublist.refl _

theorem nil (es : List Diagnostic) : Matched feature [] es := List.nil_sublist _

theorem cons {d e : Diagnostic} (hcode : d.code = e.code) (hfeature : feature d = feature e)
    (h : Matched feature ds es) : Matched feature (d :: ds) (e :: es) := by
  unfold Matched
  rw [List.map_cons, List.map_cons, hcode, hfeature]
  exact List.Sublist.cons_cons _ h

theorem skip (e : Diagnostic) (h : Matched feature ds es) : Matched feature ds (e :: es) :=
  List.Sublist.cons _ h

theorem append {ds' es' : List Diagnostic} (h : Matched feature ds es) (h' : Matched feature ds' es') :
    Matched feature (ds ++ ds') (es ++ es') := by
  unfold Matched
  rw [List.map_append, List.map_append]
  exact List.Sublist.append h h'

/-- Leaving out codes leaves out the findings with these codes and their matches. -/
theorem filter_code (p : String → Bool) (h : Matched feature ds es) :
    Matched feature (ds.filter fun d => p d.code) (es.filter fun d => p d.code) := by
  have hfilter := List.Sublist.filter (fun k : String × κ => p k.1) h
  rwa [List.filter_map, List.filter_map] at hfilter

theorem flatMap {α : Type} {xs : List α} {f g : α → List Diagnostic}
    (h : ∀ x ∈ xs, Matched feature (f x) (g x)) : Matched feature (xs.flatMap f) (xs.flatMap g) := by
  induction xs with
  | nil => exact nil []
  | cons x xs ih =>
      rw [List.flatMap_cons, List.flatMap_cons]
      exact append (h x List.mem_cons_self) (ih fun y hy => h y (List.mem_cons_of_mem x hy))

theorem countP_le (h : Matched feature ds es) (p : String × κ → Bool) :
    ds.countP (fun d => p (d.code, feature d)) ≤ es.countP (fun d => p (d.code, feature d)) := by
  have hcount := List.Sublist.countP_le (p := p) h
  rwa [List.countP_map, List.countP_map] at hcount

end Matched

/-! ## Outcomes -/

/-- Findings are made one by one exactly if the first is made and then the others. -/
theorem mapM_cons_eq_ok_iff {α : Type} {f : α → Except Fault Diagnostic} {x : α} {xs : List α} :
    (x :: xs).mapM f = .ok ds ↔ ∃ d rest, f x = .ok d ∧ xs.mapM f = .ok rest ∧ ds = d :: rest := by
  rw [List.mapM_cons]
  cases f x with
  | error e => exact ⟨nofun, nofun⟩
  | ok d =>
      cases xs.mapM f with
      | error e => exact ⟨nofun, nofun⟩
      | ok rest =>
          constructor
          · intro h
            exact ⟨d, rest, rfl, rfl, (Except.ok.inj h).symm⟩
          · rintro ⟨_, _, hd, hrest, rfl⟩
            rw [← Except.ok.inj hd, ← Except.ok.inj hrest]
            rfl

/-- **The second outcome covers the first**: if both are findings, the first are matched by the second. -/
def Covers (feature : Diagnostic → κ) (x y : Except Fault (List Diagnostic)) : Prop :=
  ∀ ds es, x = .ok ds → y = .ok es → Matched feature ds es

theorem Covers.found {c c' : Call} (h : Covers feature c.run c'.run) (hc : ∃ ds, c.run = .ok ds)
    (hc' : ∃ es, c'.run = .ok es) : Matched feature c.found c'.found := by
  obtain ⟨ds, hds⟩ := hc
  obtain ⟨es, hes⟩ := hc'
  rw [Call.found_of_run hds, Call.found_of_run hes]
  exact h ds es hds hes

/-- **Counts of findings compare as the calls do.** If two analyses of a unit have the same rules and codes,
and each check of the first is covered by that of the second, then of every code and feature the first finds
at most as many as the second. -/
theorem Setup.countP_le_of_covers {s s' : Setup} (hretained : s.retained = s'.retained)
    (hkeeps : s.keeps = s'.keeps) {unit : CompilationUnit} {model model' : Model}
    (hds : s.analyzer.analyzeUnit unit model = .ok ds) (hes : s'.analyzer.analyzeUnit unit model' = .ok es)
    (hcovers : ∀ x ∈ s.dispatches unit.root, Covers feature
      (x.1.check (x.2.context ⟨unit, model, s.effectiveSettings⟩))
      (x.1.check (x.2.context ⟨unit, model', s'.effectiveSettings⟩)))
    (p : String × κ → Bool) :
    ds.countP (fun d => p (d.code, feature d)) ≤ es.countP (fun d => p (d.code, feature d)) := by
  obtain ⟨hok, rfl⟩ := s.analyzeUnit_eq_ok_iff.mp hds
  obtain ⟨hok', rfl⟩ := s'.analyzeUnit_eq_ok_iff.mp hes
  have hsame : s'.dispatches unit.root = s.dispatches unit.root := by
    unfold dispatches
    rw [hretained]
  simp only [calls_eq_map, hsame, List.forall_mem_map] at hok hok'
  -- sorting moves findings and changes no count
  rw [Diagnostic.sort, Diagnostic.sort, (List.mergeSort_perm _ _).countP_eq,
    (List.mergeSort_perm _ _).countP_eq]
  apply Matched.countP_le
  rw [calls_eq_map, calls_eq_map, hsame, List.flatMap_map, List.flatMap_map]
  refine Matched.flatMap fun x hx => ?_
  unfold kept
  rw [← hkeeps]
  exact ((hcovers x hx).found (hok x hx) (hok' x hx)).filter_code fun code =>
    x.1.declares code && s.allows code

end

end LayerLint
