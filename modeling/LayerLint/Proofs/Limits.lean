import LayerLint.Proofs.Comparison
import LayerLint.Proofs.Faults
import Mathlib.Data.List.Basic

/-!
# `Proofs.Limits` — raising limits adds no finding

A count exceeds its limit when it is strictly greater, so a higher limit is exceeded by fewer counts. A rule
computes places only for what it reports; with fewer things to report it has fewer places to fail at. Both are
shown together, outcome by outcome (`Relaxes`), for each rule that has a limit; the other rules do not see
the limits at all.

## Contents
- **Limits.** `Thresholds.AtMost`, `Setup.withThresholds`, and that usable limits stay usable when raised.
- **Outcomes.** `Relaxes` and its laws for the ways in which checks are put together.
- **Rules.** One lemma for each rule with a limit, and `Catalog.relaxing`.
- **Result.** `raising_limits_adds_nothing`.
-/

namespace LayerLint

/-! ## Limits -/

/-- Each limit is at most the corresponding one. -/
structure Thresholds.AtMost (t u : Thresholds) : Prop where
  maxClassLines : t.maxClassLines ≤ u.maxClassLines
  maxControlFlow : t.maxControlFlow ≤ u.maxControlFlow
  maxControllerMethods : t.maxControllerMethods ≤ u.maxControllerMethods
  maxControllerParameters : t.maxControllerParameters ≤ u.maxControllerParameters
  maxConstructorDependencies : t.maxConstructorDependencies ≤ u.maxConstructorDependencies
  maxQueryLogicKeywords : t.maxQueryLogicKeywords ≤ u.maxQueryLogicKeywords
  maxRepositoryEntities : t.maxRepositoryEntities ≤ u.maxRepositoryEntities
  maxDatabaseActions : t.maxDatabaseActions ≤ u.maxDatabaseActions
  maxInterfaceMethods : t.maxInterfaceMethods ≤ u.maxInterfaceMethods

/-- Limits that are raised from limits above zero are above zero. -/
theorem Thresholds.AtMost.entries_ne_zero {t u : Thresholds} (h : t.AtMost u)
    (ht : ∀ e ∈ t.entries, e.2 ≠ 0) : ∀ e ∈ u.entries, e.2 ≠ 0 := by
  obtain ⟨h1, h2, h3, h4, h5, h6, h7, h8, h9⟩ := h
  simp only [entries, List.forall_mem_cons, List.not_mem_nil, false_implies, implies_true, and_true] at ht ⊢
  omega

theorem Settings.firstError?_eq_none_iff {s : Settings} :
    s.firstError? = none ↔
      (∀ e ∈ s.vocabulary.entries, e.2 ≠ "") ∧ ∀ e ∈ s.thresholds.entries, e.2 ≠ 0 := by
  have htokens : s.vocabulary.entries.find? (·.2 == "") = none ↔
      ∀ e ∈ s.vocabulary.entries, e.2 ≠ "" := by simp [List.find?_eq_none]
  have hlimits : s.thresholds.entries.find? (·.2 == 0) = none ↔
      ∀ e ∈ s.thresholds.entries, e.2 ≠ 0 := by simp [List.find?_eq_none]
  rw [← htokens, ← hlimits]
  unfold firstError?
  cases s.vocabulary.entries.find? (·.2 == "") with
  | some e => simp
  | none =>
      cases s.thresholds.entries.find? (·.2 == 0) with
      | some e => simp
      | none => simp

namespace Setup

/-- The setup with other limits. -/
def withThresholds (s : Setup) (t : Thresholds) : Setup :=
  { s with
    config := { s.config with thresholds := t }
    settings := s.settings.map ({ · with thresholds := t }) }

theorem effectiveSettings_withThresholds (s : Setup) (t : Thresholds) :
    (s.withThresholds t).effectiveSettings = { s.effectiveSettings with thresholds := t } := by
  unfold effectiveSettings withThresholds
  cases s.settings with
  | none => rfl
  | some settings => rfl

theorem retained_withThresholds (s : Setup) (t : Thresholds) : (s.withThresholds t).retained = s.retained := rfl

theorem keeps_withThresholds (s : Setup) (t : Thresholds) : (s.withThresholds t).keeps = s.keeps := rfl

/-- What is dispatched does not depend on the limits. -/
theorem dispatches_withThresholds (s : Setup) (t : Thresholds) (root : Node) :
    (s.withThresholds t).dispatches root = s.dispatches root := rfl

/-- A setup that can be used can be used with higher limits. -/
theorem firstError?_withThresholds {s : Setup} {t u : Thresholds} (h : t.AtMost u)
    (ht : (s.withThresholds t).effectiveSettings.firstError? = none) :
    (s.withThresholds u).effectiveSettings.firstError? = none := by
  rw [effectiveSettings_withThresholds, Settings.firstError?_eq_none_iff] at ht ⊢
  exact ⟨ht.1, h.entries_ne_zero ht.2⟩

end Setup

/-- What a check sees, with other limits. -/
def NodeContext.withThresholds (c : NodeContext) (t : Thresholds) : NodeContext :=
  { c with unit := { c.unit with settings := { c.unit.settings with thresholds := t } } }

/-! ## Outcomes -/

/-- **The second outcome relaxes the first**: if the first is a list of findings, so is the second, and its
findings are matched by findings of the first with the same code at the same place. -/
def Relaxes (x y : Except Fault (List Diagnostic)) : Prop :=
  ∀ ds, x = .ok ds → ∃ es, y = .ok es ∧ Matched (·.location) es ds

namespace Relaxes

variable {x y : Except Fault (List Diagnostic)}

theorem refl (x : Except Fault (List Diagnostic)) : Relaxes x x := by
  intro ds hds
  exact ⟨ds, hds, .refl ds⟩

theorem covers (h : Relaxes x y) : Covers (·.location) y x := by
  intro es ds hes hds
  obtain ⟨es', hes', hmatched⟩ := h ds hds
  rw [hes] at hes'
  obtain rfl := Except.ok.inj hes'
  exact hmatched

/-- A check that is silent within a limit is silent within a higher one. -/
theorem limited {p q : Prop} [Decidable p] [Decidable q] (hpq : p → q) (h : Relaxes x y) :
    Relaxes (if p then pure [] else x) (if q then pure [] else y) := by
  intro ds hds
  by_cases hq : q
  · rw [if_pos hq]
    exact ⟨[], rfl, .nil ds⟩
  · have hp : ¬p := fun hp => hq (hpq hp)
    rw [if_neg hp] at hds
    rw [if_neg hq]
    exact h ds hds

/-- Checks that first compute the same thing, which may fail. -/
theorem bind {α : Type} {value : Except Fault α} {f g : α → Except Fault (List Diagnostic)}
    (h : ∀ a, Relaxes (f a) (g a)) : Relaxes (value >>= f) (value >>= g) := by
  cases value with
  | error e => exact fun ds hds => nomatch hds
  | ok a => exact h a

theorem one {d e : Diagnostic} (hcode : e.code = d.code) (hlocation : e.location = d.location) :
    Relaxes (pure [d]) (pure [e]) := by
  intro ds hds
  obtain rfl : [d] = ds := Except.ok.inj hds
  exact ⟨[e], rfl, .cons hcode hlocation (.nil [])⟩

/-- Checks that report some things one by one, where the second one reports some of those of the first. -/
theorem mapM {α : Type} {xs ys : List α} {f g : α → Except Fault Diagnostic} (hsub : ys.Sublist xs)
    (h : ∀ x d, f x = .ok d → ∃ e, g x = .ok e ∧ e.code = d.code ∧ e.location = d.location) :
    Relaxes (xs.mapM f) (ys.mapM g) := by
  induction hsub with
  | slnil => exact refl _
  -- what is within the higher limit is not reported, and so cannot fail either
  | @cons ys xs x _ ih =>
      intro ds hds
      obtain ⟨d, rest, -, hrest, rfl⟩ := mapM_cons_eq_ok_iff.mp hds
      obtain ⟨es, hes, hmatched⟩ := ih rest hrest
      exact ⟨es, hes, hmatched.skip d⟩
  | @cons_cons ys xs x _ ih =>
      intro ds hds
      obtain ⟨d, rest, hd, hrest, rfl⟩ := mapM_cons_eq_ok_iff.mp hds
      obtain ⟨e, he, hcode, hlocation⟩ := h x d hd
      obtain ⟨es, hes, hmatched⟩ := ih rest hrest
      exact ⟨e :: es, mapM_cons_eq_ok_iff.mpr ⟨e, es, he, hes, rfl⟩, .cons hcode hlocation hmatched⟩

end Relaxes

/-- **Raising limits relaxes the rule**, whatever it is called on. -/
def Rule.Relaxing (r : Rule) : Prop :=
  ∀ (c : NodeContext) (t : Thresholds), c.thresholds.AtMost t →
    Relaxes (r.check c) (r.check (c.withThresholds t))

/-- A rule that does not see the limits. -/
theorem Rule.relaxing_of_check_eq {r : Rule} (h : ∀ c t, r.check (c.withThresholds t) = r.check c) :
    r.Relaxing := by
  intro c t _
  rw [h c t]
  exact .refl _

/-! ## Rules -/

/-- A finding that can be made with some arguments can be made at the same place with others. -/
theorem exists_diagnostic_at {place : Except Fault Location} {desc : Descriptor} {args : List String}
    {d : Diagnostic} (args' : List String)
    (h : (place >>= fun location => pure (desc.diagnostic location args)) = .ok d) :
    ∃ e, (place >>= fun location => pure (desc.diagnostic location args')) = .ok e ∧
      e.code = d.code ∧ e.location = d.location := by
  cases place with
  | error e => cases h
  | ok location =>
      obtain rfl : desc.diagnostic location args = d := Except.ok.inj h
      exact ⟨_, rfl, rfl, rfl⟩

namespace Catalog

theorem controllerBrain_relaxing : controllerBrain.Relaxing := by
  intro c t h
  unfold controllerBrain
  dsimp only
  refine .limited id (.limited ?_ (.bind fun location => .one rfl rfl))
  exact fun hle => Nat.le_trans hle h.maxControlFlow

/-- Three limits are kept at once only if each of them is, so raising any of them keeps them. -/
theorem promiscuousController_relaxing : promiscuousController.Relaxing := by
  intro c t h
  unfold promiscuousController
  dsimp only
  refine .limited id (.limited ?_ (.bind fun location => .one rfl rfl))
  simp only [Bool.and_eq_true, decide_eq_true_eq]
  rintro ⟨⟨hmethods, hparameters⟩, hdependencies⟩
  exact ⟨⟨Nat.le_trans hmethods h.maxControllerMethods,
    Nat.le_trans hparameters h.maxControllerParameters⟩,
    Nat.le_trans hdependencies h.maxConstructorDependencies⟩

/-- Logic that exceeds a limit exceeds every lower one. -/
theorem excessiveLogic?_of_le {model : Model} {low high : Nat} (h : low ≤ high) {literal : Node}
    {found : String × Nat} (hfound : excessiveLogic? model high literal = some found) :
    excessiveLogic? model low literal = some found := by
  simp only [excessiveLogic?, Option.bind_eq_bind, Option.bind_eq_some_iff] at hfound ⊢
  obtain ⟨constant, hconstant, text, htext, count, hcount, hif⟩ := hfound
  refine ⟨constant, hconstant, text, htext, count, hcount, ?_⟩
  by_cases hlimit : high < count
  · rw [if_pos hlimit] at hif
    rw [if_pos (Nat.lt_of_le_of_lt h hlimit)]
    exact hif
  · rw [if_neg hlimit] at hif
    cases hif

theorem brainRepository_relaxing : brainRepository.Relaxing := by
  intro c t h
  unfold brainRepository
  dsimp only
  refine .limited id (.mapM ?_ ?_)
  · refine filterMap_sublist_filterMap fun literal found hfound => ?_
    obtain ⟨logic, hlogic, rfl⟩ := Option.map_eq_some_iff.mp hfound
    exact Option.map_eq_some_iff.mpr ⟨logic, excessiveLogic?_of_le h.maxQueryLogicKeywords hlogic, rfl⟩
  · rintro ⟨literal, lowered, count⟩ d hd
    exact exists_diagnostic_at _ hd

theorem bigRepository_relaxing : bigRepository.Relaxing := by
  intro c t h
  unfold bigRepository
  dsimp only
  refine .limited id (.limited ?_ (.bind fun location => .one rfl rfl))
  exact fun hle => Nat.le_trans hle h.maxRepositoryEntities

theorem laboriousRepository_relaxing : laboriousRepository.Relaxing := by
  intro c t h
  unfold laboriousRepository
  dsimp only
  refine .limited id (.mapM ?_ ?_)
  · refine List.monotone_filter_right _ fun ⟨m, body⟩ hexceeds => ?_
    simp only [Bool.and_eq_true, decide_eq_true_eq] at hexceeds ⊢
    exact ⟨hexceeds.1, Nat.lt_of_le_of_lt h.maxDatabaseActions hexceeds.2⟩
  · rintro ⟨m, body⟩ d hd
    exact exists_diagnostic_at _ hd

theorem ambiguousInterface_relaxing : ambiguousInterface.Relaxing := by
  intro c t h
  unfold ambiguousInterface
  dsimp only
  refine .limited ?_ (.bind fun location => .one rfl rfl)
  exact fun hle => Nat.le_trans hle h.maxInterfaceMethods

theorem godClass_relaxing : godClass.Relaxing := by
  intro c t h
  unfold godClass
  dsimp only
  refine .bind fun lines => .limited ?_ (.bind fun location => .one rfl rfl)
  exact fun hle => Nat.le_trans hle h.maxClassLines

/-- **Raising limits relaxes every built-in rule.** -/
theorem relaxing {r : Rule} (hr : r ∈ rules) : r.Relaxing := by
  have hblind : ∀ r : Rule, (∀ c t, r.check (c.withThresholds t) = r.check c) → r.Relaxing :=
    fun _ => Rule.relaxing_of_check_eq
  simp only [rules, List.mem_cons, List.not_mem_nil, or_false] at hr
  rcases hr with rfl | rfl | rfl | rfl | rfl | rfl | rfl | rfl | rfl | rfl | rfl | rfl | rfl | rfl | rfl | rfl
  · exact hblind modelView fun _ _ => rfl
  · exact hblind modelController fun _ _ => rfl
  · exact hblind viewModel fun _ _ => rfl
  · exact hblind viewController fun _ _ => rfl
  · exact hblind controllerView fun _ _ => check_controllerView_congr rfl rfl rfl
  · exact hblind controllerModel fun _ _ => rfl
  · exact controllerBrain_relaxing
  · exact promiscuousController_relaxing
  · exact hblind meddlingService fun _ _ => rfl
  · exact brainRepository_relaxing
  · exact bigRepository_relaxing
  · exact laboriousRepository_relaxing
  · exact hblind abstractionWithoutDecoupling fun _ _ => rfl
  · exact ambiguousInterface_relaxing
  · exact hblind architectureViolation fun _ _ => rfl
  · exact godClass_relaxing

end Catalog

/-! ## Result -/

/-- Each check that is dispatched under some limits is relaxed by the same check under higher ones. -/
theorem Setup.relaxes_dispatched {s : Setup} (hrules : ∀ r ∈ s.rules, r ∈ Catalog.rules) {t u : Thresholds}
    (h : t.AtMost u) (unit : CompilationUnit) (model : Model) {x : Rule × Occurrence}
    (hx : x ∈ s.dispatches unit.root) :
    Relaxes (x.1.check (x.2.context ⟨unit, model, (s.withThresholds t).effectiveSettings⟩))
      (x.1.check (x.2.context ⟨unit, model, (s.withThresholds u).effectiveSettings⟩)) := by
  have hrule : x.1 ∈ Catalog.rules := hrules _ (s.of_mem_dispatches hx).1
  rw [effectiveSettings_withThresholds, effectiveSettings_withThresholds]
  -- apart from the limits the settings play no part, and need not be looked into
  generalize s.effectiveSettings = settings
  exact Catalog.relaxing hrule (x.2.context ⟨unit, model, { settings with thresholds := t }⟩) u h

/-- **Raising limits adds no finding.** Let built-in rules be set up with some limits and with limits that are
nowhere lower. If the first analyzer can be built, so can the second; if the first finishes a unit, so does the
second, and of every code at every place it finds at most as many. -/
theorem raising_limits_adds_nothing {s : Setup} (hrules : ∀ r ∈ s.rules, r ∈ Catalog.rules)
    {t u : Thresholds} (h : t.AtMost u) {a : Analyzer} (hbuild : (s.withThresholds t).build = .ok a) :
    ∃ b, (s.withThresholds u).build = .ok b ∧
      ∀ (unit : CompilationUnit) (model : Model) (ds : List Diagnostic),
        a.analyzeUnit unit model = .ok ds → ∃ es, b.analyzeUnit unit model = .ok es ∧
          ∀ (code : String) (location : Location),
            es.countP (fun d => d.code = code ∧ d.location = location) ≤
              ds.countP (fun d => d.code = code ∧ d.location = location) := by
  obtain ⟨hvalid, rfl⟩ := (s.withThresholds t).build_eq_ok_iff.mp hbuild
  have hvalid' := Setup.firstError?_withThresholds h hvalid
  refine ⟨_, (s.withThresholds u).build_eq_ok_iff.mpr ⟨hvalid', rfl⟩, ?_⟩
  intro unit model ds hds
  have hfinishes : ∃ es, (s.withThresholds u).analyzer.analyzeUnit unit model = .ok es := by
    rw [Setup.exists_ok_iff, Setup.dispatches_withThresholds]
    intro x hx
    have hok := ((s.withThresholds t).exists_ok_iff unit model).mp ⟨ds, hds⟩
    rw [Setup.dispatches_withThresholds] at hok
    obtain ⟨found, hfound⟩ := hok x hx
    obtain ⟨es, hes, -⟩ := Setup.relaxes_dispatched hrules h unit model hx found hfound
    exact ⟨es, hes⟩
  obtain ⟨es, hes⟩ := hfinishes
  refine ⟨es, hes, fun code location => ?_⟩
  have hretained : (s.withThresholds u).retained = (s.withThresholds t).retained := by
    rw [Setup.retained_withThresholds, Setup.retained_withThresholds]
  have hkeeps : (s.withThresholds u).keeps = (s.withThresholds t).keeps := by
    rw [Setup.keeps_withThresholds, Setup.keeps_withThresholds]
  refine Setup.countP_le_of_covers hretained hkeeps hes hds ?_ fun k => k.1 = code ∧ k.2 = location
  intro x hx
  rw [Setup.dispatches_withThresholds] at hx
  exact (Setup.relaxes_dispatched hrules h unit model hx).covers

/-- A limit of 1000 lines for a class of 600 lines that also creates an object it must not create. -/
theorem raising_limits_adds_nothing_sample :
    ({} : Thresholds).AtMost { maxClassLines := 1000 } ∧
    ∃ a, (Sample.catalog.withThresholds {}).build = .ok a ∧
    ∃ ds, a.analyzeUnit Sample.unit Sample.model = .ok ds ∧ ds.length = 2 ∧
    ∃ b, (Sample.catalog.withThresholds { maxClassLines := 1000 }).build = .ok b ∧
    ∃ es, b.analyzeUnit Sample.unit Sample.model = .ok es ∧
      ∀ (code : String) (location : Location),
        es.countP (fun d => d.code = code ∧ d.location = location) ≤
          ds.countP (fun d => d.code = code ∧ d.location = location) := by
  have hlimits : ({} : Thresholds).AtMost { maxClassLines := 1000 } := by constructor <;> decide
  have hbuild : (Sample.catalog.withThresholds {}).build = .ok Sample.catalog.analyzer := Sample.build_catalog
  have hall : ∀ c ∈ Sample.catalog.calls Sample.unit Sample.model, ∃ ds, c.run = .ok ds :=
    Call.exists_ok_of_all_isOk (by decide +kernel)
  have hds := Sample.catalog.analyzeUnit_of_all_ok hall
  obtain ⟨b, hb, hraised⟩ := raising_limits_adds_nothing (fun _ hr => hr) hlimits hbuild
  obtain ⟨es, hes, hcounts⟩ := hraised Sample.unit Sample.model _ hds
  refine ⟨hlimits, _, hbuild, _, hds, ?_, b, hb, es, hes, hcounts⟩
  rw [Diagnostic.sort, List.length_mergeSort]
  decide +kernel

end LayerLint
