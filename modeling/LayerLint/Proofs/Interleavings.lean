import LayerLint.Proofs.Sorting
import LayerLint.Proofs.Workers
import Mathlib.Algebra.BigOperators.Group.Finset.Basic
import Mathlib.Data.Fintype.Basic
import Mathlib.Data.Multiset.Bind

/-!
# `Proofs.Interleavings` — what a complete run of the workers returns

The invariant of `Proofs.Workers` speaks of every moment of a run. In the end no unit is between the sink
and the counter, so both are settled by the set of units that were started and did not fail.

## Contents
- **Complete runs.** `checked`, the units that count; `Inv.toFinset_reportOrder`, `Inv.result_eq`.
- **Runs that are not cancelled.** `mem_checked_of_open`: no unit that finishes is left out;
  `exists_open_iff`: such runs return what the units give one after the other, in some order.
- **Results.** `analyzeAll_interleavings`.
-/

namespace LayerLint

namespace Workers

variable {a : Analyzer} {units : List (CompilationUnit × Model)} {cancelled : Bool}
variable {s s' : State units.length} {trace : List (Event units.length)}

/-! ## Complete runs -/

/-- The units that were started and whose analysis finishes. -/
def checked (a : Analyzer) (units : List (CompilationUnit × Model)) (trace : List (Event units.length)) :
    Finset (Fin units.length) := {i | .start i ∈ trace ∧ a.finishes (units.get i) = true}

theorem mem_checked {i : Fin units.length} :
    i ∈ checked a units trace ↔ .start i ∈ trace ∧ a.finishes (units.get i) = true := by
  rw [checked, Finset.mem_filter, and_iff_right (Finset.mem_univ i)]

/-- What is in the sink comes from units that were started and finish. -/
theorem Inv.mem_checked_of_report (hinv : Inv a units trace s) {i : Fin units.length}
    (hi : .report i ∈ trace) : i ∈ checked a units trace := by
  have hreported := (hinv.reported i).mp hi
  have hstarted : (s.stage i).isStarted := by
    cases hs : s.stage i <;> simp_all [Stage.isReported, Stage.isStarted]
  exact mem_checked.mpr ⟨(hinv.started i).mpr hstarted, hinv.finishes i hreported⟩

/-- In the end the units that were started and finish are counted. -/
theorem Inv.counted_eq_checked (hinv : Inv a units trace s) (hdone : s.Done) :
    s.counted = checked a units trace := by
  ext i
  rw [State.mem_counted, mem_checked, hinv.started]
  have hfinal := hdone i
  have hfailed := hinv.failed i
  have hfinishes := hinv.finishes i
  cases hs : s.stage i <;> simp_all [Stage.isFinal, Stage.isStarted, Stage.isReported]

theorem Inv.toFinset_reportOrder (hinv : Inv a units trace s) (hdone : s.Done) :
    (reportOrder trace).toFinset = checked a units trace := by
  ext i
  rw [List.mem_toFinset, mem_reportOrder, hinv.reported, ← hinv.counted_eq_checked hdone, State.mem_counted]
  have hfinal := hdone i
  cases hs : s.stage i <;> simp_all [Stage.isFinal, Stage.isReported]

/-- The findings of units, one after the other, are the sum of the findings of each. -/
theorem coe_flatMap_of_nodup (order : List (Fin units.length)) (h : order.Nodup) :
    ((order.flatMap fun i => a.findings (units.get i) : List Diagnostic) : Multiset Diagnostic) =
      ∑ i ∈ order.toFinset, (a.findings (units.get i) : Multiset Diagnostic) := by
  rw [List.sum_toFinset _ h, ← Multiset.coe_bind]
  rfl

theorem Inv.coe_diagnostics (hinv : Inv a units trace s) (hdone : s.Done) :
    (s.result.diagnostics : Multiset Diagnostic) =
      ∑ i ∈ checked a units trace, (a.findings (units.get i) : Multiset Diagnostic) := by
  have hperm := (Diagnostic.isStableSort_sort s.sink.diagnostics).perm
  calc (s.result.diagnostics : Multiset Diagnostic)
      = (s.sink.diagnostics : Multiset Diagnostic) := Multiset.coe_eq_coe.mpr hperm
    _ = _ := by rw [hinv.sink, coe_flatMap_of_nodup _ hinv.reported_once, hinv.toFinset_reportOrder hdone]

theorem Inv.unitsChecked_eq (hinv : Inv a units trace s) (hdone : s.Done) :
    s.result.unitsChecked = (checked a units trace).card := by
  rw [← hinv.counted_eq_checked hdone]
  exact hinv.count

theorem Inv.finishes_of_mem (hinv : Inv a units trace s) :
    ∀ u ∈ (reportOrder trace).map units.get, a.finishes u = true := by
  intro u hu
  obtain ⟨i, hi, rfl⟩ := List.mem_map.mp hu
  exact (mem_checked.mp (hinv.mem_checked_of_report (mem_reportOrder.mp hi))).2

/-- **A complete run returns what its units give one after the other**, in the order in which they
reported. -/
theorem Inv.result_eq (hinv : Inv a units trace s) (hdone : s.Done) :
    s.result = a.analyzeAll ((reportOrder trace).map units.get) false := by
  have hcount : s.count = ((reportOrder trace).map units.get).countP a.finishes := by
    rw [List.countP_eq_length.mpr hinv.finishes_of_mem, List.length_map,
      ← List.toFinset_card_of_nodup hinv.reported_once, hinv.toFinset_reportOrder hdone]
    exact hinv.unitsChecked_eq hdone
  rw [Analyzer.analyzeAll_eq, ← hcount, List.flatMap_map, ← hinv.sink]
  rfl

/-! ## Runs that are not cancelled -/

/-- Without a cancellation no unit is skipped. -/
theorem mem_checked_of_open (h : Run a units (State.initial units.length false) trace s) (hdone : s.Done)
    (hcancel : .cancel ∉ trace) (i : Fin units.length) :
    i ∈ checked a units trace ↔ a.finishes (units.get i) = true := by
  have hopen : s.cancelled = false := h.cancelled_of_not_mem hcancel
  have hskip : s.stage i ≠ .skipped := by
    intro hs
    have := h.inv.skipped i hs
    rw [hopen] at this
    cases this
  have hfinal := hdone i
  have hstarted : (s.stage i).isStarted := by
    cases hs : s.stage i <;> simp_all [Stage.isFinal, Stage.isStarted]
  rw [mem_checked, h.inv.started, and_iff_right hstarted]

/-- Every rearrangement of the units is a rearrangement of their indices. -/
theorem exists_order_of_perm {units' : List (CompilationUnit × Model)} (h : units'.Perm units) :
    ∃ order : List (Fin units.length), order.Perm (List.finRange units.length) ∧
      units' = order.map units.get := by
  have hall : List.Forall₂ (fun u i => u = units.get i) units (List.finRange units.length) := by
    conv => arg 2; rw [← List.map_get_finRange units]
    rw [List.forall₂_map_left_iff, List.forall₂_same]
    exact fun _ _ => rfl
  obtain ⟨order, horder, hperm⟩ := List.perm_comp_forall₂ h hall
  refine ⟨order, hperm, ?_⟩
  rwa [← List.forall₂_eq_eq_eq, List.forall₂_map_right_iff]

/-- Without a cancellation exactly the units that finish report. -/
theorem perm_reportOrder_of_open (h : Run a units (State.initial units.length false) trace s)
    (hdone : s.Done) (hcancel : .cancel ∉ trace) :
    ((reportOrder trace).map units.get).Perm (units.filter a.finishes) := by
  have hperm : (reportOrder trace).Perm
      ((List.finRange units.length).filter fun i => a.finishes (units.get i)) := by
    rw [List.perm_ext_iff_of_nodup h.inv.reported_once ((List.nodup_finRange _).filter _)]
    intro i
    rw [← List.mem_toFinset, h.inv.toFinset_reportOrder hdone, mem_checked_of_open h hdone hcancel i,
      List.mem_filter, and_iff_right (List.mem_finRange i)]
  have hmap := hperm.map units.get
  rwa [show (fun i => a.finishes (units.get i)) = a.finishes ∘ units.get from rfl, ← List.filter_map,
    List.map_get_finRange] at hmap

/-- **The runs that are not cancelled return what the units give one after the other in some order**, and
every order can come about. -/
theorem exists_open_iff {result : LintResult} :
    (∃ trace s, Run a units (State.initial units.length false) trace s ∧ s.Done ∧ .cancel ∉ trace ∧
      s.result = result) ↔ ∃ units', units'.Perm units ∧ result = a.analyzeAll units' false := by
  constructor
  · rintro ⟨trace, s, hrun, hdone, hcancel, rfl⟩
    -- The units that fail report nothing: put them behind those that report.
    refine ⟨(reportOrder trace).map units.get ++ units.filter (fun u => !a.finishes u), ?_, ?_⟩
    · exact ((perm_reportOrder_of_open hrun hdone hcancel).append_right _).trans
        (List.filter_append_perm a.finishes units)
    · have hnone : (units.filter fun u => !a.finishes u).filter a.finishes = [] := by
        simp [List.filter_filter]
      rw [hrun.inv.result_eq hdone, ← a.analyzeAll_filter_finishes (_ ++ _), List.filter_append,
        List.filter_eq_self.mpr hrun.inv.finishes_of_mem, hnone, List.append_nil]
  · rintro ⟨units', hperm, rfl⟩
    obtain ⟨order, horder, rfl⟩ := exists_order_of_perm hperm
    obtain ⟨trace, s, hrun, hfinal, hcancel, hreport⟩ :=
      exists_complete (a := a) order (State.initial units.length false)
    have hdone : s.Done := fun i => hfinal i (horder.mem_iff.mpr (List.mem_finRange i))
    refine ⟨trace, s, hrun, hdone, hcancel, ?_⟩
    rw [hrun.inv.result_eq hdone, hreport (horder.nodup_iff.mpr (List.nodup_finRange _)) (fun _ _ => rfl) rfl,
      ← a.analyzeAll_filter_finishes (order.map units.get), List.filter_map]
    rfl

/-! ## Results -/

/-- When the token is cancelled beforehand, no unit is checked. -/
theorem checked_of_cancelled (h : Run a units (State.initial units.length true) trace s) :
    checked a units trace = ∅ := by
  rw [Finset.eq_empty_iff_forall_notMem]
  intro i hi
  exact h.not_start_of_cancelled rfl i (mem_checked.mp hi).1

/-- Some run returns what the units give one after the other in the order of the list. -/
theorem exists_run_analyzeAll (a : Analyzer) (units : List (CompilationUnit × Model)) (cancelled : Bool) :
    ∃ trace s, Run a units (State.initial units.length cancelled) trace s ∧ s.Done ∧ .cancel ∉ trace ∧
      s.result = a.analyzeAll units cancelled := by
  cases cancelled with
  | false => exact exists_open_iff.mpr ⟨units, List.Perm.refl units, rfl⟩
  | true =>
      obtain ⟨trace, s, hrun, hfinal, hcancel, -⟩ :=
        exists_complete (a := a) (List.finRange units.length) (State.initial units.length true)
      have hdone : s.Done := fun i => hfinal i (List.mem_finRange i)
      have hnone : reportOrder trace = [] := by
        rw [← List.toFinset_eq_empty_iff, hrun.inv.toFinset_reportOrder hdone, checked_of_cancelled hrun]
      refine ⟨trace, s, hrun, hdone, hcancel, ?_⟩
      rw [hrun.inv.result_eq hdone, hnone, Analyzer.analyzeAll_cancelled, List.map_nil]

/-- **Every interleaving accounts for every unit.** The order of the list is one of the interleavings, and
none gets stuck. At each moment the sink holds whole results of distinct units that were started and
finish. Nothing is started after a cancellation, and a unit that fails can be left out of a run without a
change for the others. In the end the findings are in order and are together those of the units checked,
whose number is returned; without a cancellation these are all that finish, and when the token is cancelled
beforehand there are none. -/
theorem analyzeAll_interleavings (a : Analyzer) (units : List (CompilationUnit × Model)) (cancelled : Bool) :
    (∃ trace s, Run a units (State.initial units.length cancelled) trace s ∧ s.Done ∧ .cancel ∉ trace ∧
      s.result = a.analyzeAll units cancelled) ∧
    ∀ trace s, Run a units (State.initial units.length cancelled) trace s →
      (∃ more s', Run a units s more s' ∧ s'.Done) ∧
      (s.sink.diagnostics = (reportOrder trace).flatMap (fun i => a.findings (units.get i)) ∧
        (reportOrder trace).Nodup ∧ ∀ i ∈ reportOrder trace, i ∈ checked a units trace) ∧
      (∀ before after, trace = before ++ .cancel :: after → ∀ i, .start i ∉ after) ∧
      (∀ i, a.finishes (units.get i) = false →
        ∃ s', Run a units (State.initial units.length cancelled) (trace.filter fun e => !e.isAbout i) s' ∧
          AgreeOff i s s') ∧
      (cancelled = true → checked a units trace = ∅) ∧
      (s.Done →
        s.result.diagnostics.Pairwise (fun d e => Diagnostic.le d e) ∧
        (s.result.diagnostics : Multiset Diagnostic) =
          ∑ i ∈ checked a units trace, (a.findings (units.get i) : Multiset Diagnostic) ∧
        s.result.unitsChecked = (checked a units trace).card ∧
        (cancelled = false → .cancel ∉ trace →
          ∀ i, i ∈ checked a units trace ↔ a.finishes (units.get i) = true)) := by
  refine ⟨exists_run_analyzeAll a units cancelled, ?_⟩
  intro trace s hrun
  have hinv := hrun.inv
  refine ⟨?_, ⟨hinv.sink, hinv.reported_once, ?_⟩, ?_, ?_, ?_, ?_⟩
  · obtain ⟨more, s', hmore, hfinal, -⟩ := exists_complete (a := a) (List.finRange units.length) s
    exact ⟨more, s', hmore, fun i => hfinal i (List.mem_finRange i)⟩
  · intro i hi
    exact hinv.mem_checked_of_report (mem_reportOrder.mp hi)
  · rintro before after rfl i
    obtain ⟨s1, -, hafter⟩ := hrun.split
    cases hafter with
    | cons hstep hrest => exact hrest.not_start_of_cancelled (by rw [hstep.cancelled_eq]; simp) i
  · intro i hfin
    exact exists_run_without hrun hfin Bool.false_ne_true (AgreeOff.refl i _)
  · rintro rfl
    exact checked_of_cancelled hrun
  · intro hdone
    refine ⟨(Diagnostic.isStableSort_sort _).ordered, hinv.coe_diagnostics hdone,
      hinv.unitsChecked_eq hdone, ?_⟩
    rintro rfl hcancel i
    exact mem_checked_of_open hrun hdone hcancel i

end Workers

end LayerLint
