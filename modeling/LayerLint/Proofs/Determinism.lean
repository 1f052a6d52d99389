import LayerLint.Proofs.Calls
import LayerLint.Proofs.Interleavings

/-!
# `Proofs.Determinism` — when the order of the units does not show

Sorting is stable, and the order it sorts by leaves out the spelling of a path, the offset and the length.
Findings of two units that compare equal therefore stay in the order in which the units reported. That
order does not show in the result exactly if the findings of any two units may change places.

## Contents
- **Changing places.** `Diagnostic.Interchange`, which can be decided.
- **Rearranging.** `sort_flatMap_eq_of_perm`, `forall_perm_sort_flatMap_eq_iff`: what holds of two lists of
  findings holds of any number of them.
- **Results.** `analyzeAll_order_irrelevant_iff`, and two units for which the order shows.
-/

namespace LayerLint

namespace Diagnostic

/-! ## Changing places -/

/-- **The findings of two units may change places**: of those that tie with one another, the first and the
second ones make the same list in either order. -/
def Interchange (ds es : List Diagnostic) : Prop :=
  ∀ d ∈ ds, ds.filter (ties d) ++ es.filter (ties d) = es.filter (ties d) ++ ds.filter (ties d)

instance (ds es : List Diagnostic) : Decidable (Interchange ds es) :=
  inferInstanceAs (Decidable (∀ d ∈ ds, _))

/-- Findings that tie are tied with by the same ones. -/
theorem ties_congr {d e : Diagnostic} (h : ties d e) : ties d = ties e := by
  funext x
  rw [Bool.eq_iff_iff]
  exact ⟨ties_trans (ties_symm h), ties_trans h⟩

/-- Findings that none of the first list ties with change places with nothing. -/
theorem interchange_iff {ds es : List Diagnostic} : Interchange ds es ↔
    ∀ d, ds.filter (ties d) ++ es.filter (ties d) = es.filter (ties d) ++ ds.filter (ties d) := by
  refine ⟨fun h d => ?_, fun h d _ => h d⟩
  by_cases hd : ∃ e ∈ ds, ties d e
  · obtain ⟨e, he, hde⟩ := hd
    rw [ties_congr hde]
    exact h e he
  · have hnone : ds.filter (ties d) = [] :=
      List.filter_eq_nil_iff.mpr fun e he hde => hd ⟨e, he, hde⟩
    rw [hnone, List.nil_append, List.append_nil]

theorem Interchange.symm {ds es : List Diagnostic} (h : Interchange ds es) : Interchange es ds :=
  interchange_iff.mpr fun d => (interchange_iff.mp h d).symm

/-! ## Rearranging -/

section

variable {ι : Type} (f : ι → List Diagnostic) {l l' : List ι}

/-- Lists of findings of which any two may change places may be rearranged at will. -/
theorem sort_flatMap_eq_of_perm (h : l'.Perm l) (hl : l.Pairwise fun i j => Interchange (f i) (f j)) :
    sort (l'.flatMap f) = sort (l.flatMap f) := by
  rw [sort_eq_sort_iff]
  intro d
  induction h with
  | nil => rfl
  | cons i _ ih =>
      rw [List.flatMap_cons, List.flatMap_cons, List.filter_append, List.filter_append,
        ih (List.pairwise_cons.mp hl).2]
  | swap i j rest =>
      have hij : Interchange (f i) (f j) := (List.pairwise_cons.mp hl).1 j List.mem_cons_self
      simp only [List.flatMap_cons, List.filter_append, ← List.append_assoc]
      rw [interchange_iff.mp hij d]
  | trans _ h₂ ih₁ ih₂ =>
      -- The middle list is a rearrangement too, and changing places does not depend on who comes first.
      have hmiddle := (h₂.pairwise_iff Interchange.symm).mpr hl
      exact (ih₁ hmiddle).trans (ih₂ hl)

/-- **The order does not show exactly if any two may change places.** Two of them are brought to the front
to see that they may. -/
theorem forall_perm_sort_flatMap_eq_iff :
    (∀ l' : List ι, l'.Perm l → sort (l'.flatMap f) = sort (l.flatMap f)) ↔
      l.Pairwise fun i j => Interchange (f i) (f j) := by
  constructor
  · intro h
    rw [List.pairwise_iff_forall_sublist]
    intro i j hij
    -- With the two in front the rest is the same on both sides and cancels, tie class by tie class.
    obtain ⟨rest, hrest⟩ := hij.exists_perm_append
    have hfront : sort ((i :: j :: rest).flatMap f) = sort ((j :: i :: rest).flatMap f) :=
      (h _ hrest.symm).trans (h _ ((List.Perm.swap i j rest).trans hrest.symm)).symm
    rw [interchange_iff]
    intro d
    have hd := sort_eq_sort_iff.mp hfront d
    simp only [List.flatMap_cons, List.filter_append, ← List.append_assoc] at hd
    exact List.append_cancel_right hd
  · intro hl l' h
    exact sort_flatMap_eq_of_perm f h hl

end

end Diagnostic

/-! ## Results -/

open Workers Diagnostic

/-- **When the order of the units does not show.** Every rearrangement of the units gives the same list of
findings, and every two complete runs of the workers without a cancellation do, exactly if the findings of
any two of the units may change places. -/
theorem analyzeAll_order_irrelevant_iff (a : Analyzer) (units : List (CompilationUnit × Model)) :
    ((∀ units', units'.Perm units →
        (a.analyzeAll units' false).diagnostics = (a.analyzeAll units false).diagnostics) ↔
      units.Pairwise fun u v => Interchange (a.findings u) (a.findings v)) ∧
    ((∀ trace s trace' s', Run a units (State.initial units.length false) trace s → s.Done →
        .cancel ∉ trace → Run a units (State.initial units.length false) trace' s' → s'.Done →
        .cancel ∉ trace' → s.result.diagnostics = s'.result.diagnostics) ↔
      units.Pairwise fun u v => Interchange (a.findings u) (a.findings v)) := by
  have hperm : (∀ units', units'.Perm units →
      (a.analyzeAll units' false).diagnostics = (a.analyzeAll units false).diagnostics) ↔
      units.Pairwise fun u v => Interchange (a.findings u) (a.findings v) := by
    rw [← forall_perm_sort_flatMap_eq_iff]
    simp only [Analyzer.analyzeAll_eq]
  refine ⟨hperm, ?_⟩
  rw [← hperm]
  constructor
  · intro h units' hunits'
    obtain ⟨trace, s, hrun, hdone, hcancel, hs⟩ := exists_open_iff.mpr ⟨units', hunits', rfl⟩
    obtain ⟨trace', s', hrun', hdone', hcancel', hs'⟩ :=
      exists_open_iff.mpr ⟨units, List.Perm.refl units, rfl⟩
    rw [← hs, ← hs']
    exact h trace s trace' s' hrun hdone hcancel hrun' hdone' hcancel'
  · intro h trace s trace' s' hrun hdone hcancel hrun' hdone' hcancel'
    obtain ⟨units₁, hunits₁, hs⟩ := exists_open_iff.mp ⟨trace, s, hrun, hdone, hcancel, rfl⟩
    obtain ⟨units₂, hunits₂, hs'⟩ := exists_open_iff.mp ⟨trace', s', hrun', hdone', hcancel', rfl⟩
    rw [hs, hs', h units₁ hunits₁, h units₂ hunits₂]

namespace Sample

/-- A file with one long class. -/
def longClass (path : String) : CompilationUnit where
  path
  root := .mk { kind := .compilationUnit }
    [.mk { kind := .classDecl, identifier := some "Pedido", span := .lines 1 600 } []]

/-- The limit on the lines of a class, with no other setting. -/
def sizeLimit : Setup where
  rules := [Catalog.godClass]

/-- What is found in a long class. -/
def tooLong (path : String) : Diagnostic where
  code := "RA16-001"
  rule := "god-class"
  location := { file := path, line := 1, column := 1 }
  message := "Class 'Pedido' has 600 lines (limit 500)"

/-- Two spellings of one path. -/
def spellings : List String := ["a/b.cs", "a//b.cs"]

theorem build_sizeLimit : sizeLimit.build = .ok sizeLimit.analyzer :=
  sizeLimit.build_eq_ok_iff.mpr ⟨by decide +kernel, rfl⟩

theorem findings_longClass {path : String} (h : path ∈ spellings) :
    sizeLimit.analyzer.findings (longClass path, model) = [tooLong path] := by
  have hok : ∀ path ∈ spellings, (sizeLimit.calls (longClass path) model).all (·.run.isOk) := by
    decide +kernel
  have hkept : ∀ path ∈ spellings,
      (sizeLimit.calls (longClass path) model).flatMap sizeLimit.kept = [tooLong path] := by
    decide +kernel
  unfold Analyzer.findings
  rw [sizeLimit.analyzeUnit_of_all_ok (Call.exists_ok_of_all_isOk (hok path h)), hkept path h,
    sort_of_ordered (List.pairwise_singleton _ _)]

/-- The findings in two files whose paths are spellings of one another keep the order of the files. -/
theorem diagnostics_longClass {path path' : String} (h : path ∈ spellings) (h' : path' ∈ spellings) :
    (sizeLimit.analyzer.analyzeAll [(longClass path, model), (longClass path', model)] false).diagnostics =
      [tooLong path, tooLong path'] := by
  have hle : ∀ path ∈ spellings, ∀ path' ∈ spellings, le (tooLong path) (tooLong path') := by
    decide +kernel
  rw [Analyzer.analyzeAll_eq, List.flatMap_cons, List.flatMap_cons, findings_longClass h,
    findings_longClass h']
  exact sort_of_ordered (List.pairwise_pair.mpr (hle path h path' h'))

end Sample

/-- **The order of two units can show.** Two files whose paths compare equal hold the same long class: the
findings differ in the spelling of the path only, and come out in the order of the files. -/
theorem analyzeAll_order_shows :
    ∃ a, Sample.sizeLimit.build = .ok a ∧
      ¬∀ units units', units'.Perm units →
        (a.analyzeAll units' false).diagnostics = (a.analyzeAll units false).diagnostics := by
  refine ⟨_, Sample.build_sizeLimit, fun h => ?_⟩
  have hswap := h _ _ (List.Perm.swap (Sample.longClass "a/b.cs", Sample.model)
    (Sample.longClass "a//b.cs", Sample.model) [])
  rw [Sample.diagnostics_longClass (by decide) (by decide),
    Sample.diagnostics_longClass (by decide) (by decide)] at hswap
  exact absurd hswap (by decide)

end LayerLint
