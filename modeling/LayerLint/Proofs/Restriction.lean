import LayerLint.Proofs.Calls

/-!
# `Proofs.Restriction` — switches and selection only filter

Rules are dropped one by one, findings by code: a rule stays if any of its descriptors is on, and a code
is active if any rule declares it by a descriptor that is on. These two agree as soon as a code stands
for one rule name, as it does in the catalog. A restricted run is then the unrestricted run with the
findings of other codes left out.

## Contents
- **Names.** `NamesCodes`, and `Catalog.namesCodes` for any rules taken from the catalog.
- **Passing.** `Setup.unrestricted`; `Setup.passes`, what it looks up (`passes_eq`), and `allows_eq_passes`.
- **Calls.** `calls_eq_filter`, `flatMap_kept_eq_filter`: a restricted run makes some of the calls of
  the unrestricted run and keeps of them what passes.
- **Result.** `analyzeUnit_restricted_eq_filter`.
-/

namespace LayerLint

/-! ## Names -/

/-- Every descriptor of the rules carries the name that `nameOf` gives for its code. -/
def NamesCodes (nameOf : String → String) (rules : List Rule) : Prop :=
  ∀ r ∈ rules, ∀ d ∈ r.descriptors, d.name = nameOf d.id

namespace Catalog

/-- The name that the catalog gives a code. -/
def nameOf (code : String) : String :=
  (((rules.flatMap (·.descriptors)).find? (·.id == code)).map (·.name)).getD ""

/-- A code of the catalog stands for one name, in whatever order and however often its rules are
registered. -/
theorem namesCodes {registered : List Rule} (h : ∀ r ∈ registered, r ∈ rules) :
    NamesCodes nameOf registered := by
  have hall : ∀ d ∈ rules.flatMap (·.descriptors), d.name = nameOf d.id := by decide +kernel
  intro r hr d hd
  exact hall d (List.mem_flatMap.mpr ⟨r, h r hr, hd⟩)

end Catalog

/-! ## Passing -/

namespace Setup

variable (s : Setup)

/-- The setup without switches and without a selection. -/
def unrestricted : Setup := { s with config := { s.config with switches := [] }, selection := [] }

/-- A code with a given name is switched on under both, and selected: by the code, ASCII case aside, or
exactly by the name. -/
def passes (name code : String) : Bool :=
  s.config.isEnabled name code &&
    (s.selection.isEmpty || s.selection.any fun q => Text.sameIgnoringCase q code || q == name)

/-- In terms of the entries: neither switches off, and the selection is empty or names the rule or the code. -/
theorem passes_eq (name code : String) : s.passes name code =
    (s.config.switches.lookup name != some (some false) && s.config.switches.lookup code != some (some false) &&
      (s.selection.isEmpty || s.selection.any fun q => Text.sameIgnoringCase q code || q == name)) := by
  rw [passes, Config.isEnabled, Config.isOn_eq, Config.isOn_eq]

theorem activates_eq_passes (d : Descriptor) : s.activates d = s.passes d.name d.id := rfl

theorem activates_unrestricted (d : Descriptor) : s.unrestricted.activates d = true := rfl

theorem effectiveSettings_unrestricted : s.unrestricted.effectiveSettings = s.effectiveSettings := rfl

variable {s} {nameOf : String → String}

/-- Where codes have one name each, a declared code is active exactly if it passes. -/
theorem allows_eq_passes (hnames : NamesCodes nameOf s.rules) {r : Rule} (hr : r ∈ s.rules) {code : String}
    (hcode : r.declares code) : s.allows code = s.passes (nameOf code) code := by
  obtain ⟨d, hd, hid⟩ := List.any_eq_true.mp hcode
  rw [beq_iff_eq] at hid
  subst hid
  rw [Bool.eq_iff_iff]
  simp only [allows, List.any_eq_true, Bool.and_eq_true, beq_iff_eq, activates_eq_passes]
  constructor
  · rintro ⟨q, hq, e, he, hid, hpass⟩
    rwa [hnames q hq e he, hid] at hpass
  · intro hpass
    exact ⟨r, hr, d, hd, rfl, by rwa [hnames r hr d hd]⟩

/-- A rule that declares a code that passes is retained. -/
theorem any_activates_of_passes (hnames : NamesCodes nameOf s.rules) {r : Rule} (hr : r ∈ s.rules)
    {code : String} (hcode : r.declares code) (hpass : s.passes (nameOf code) code) :
    r.descriptors.any s.activates := by
  obtain ⟨d, hd, hid⟩ := List.any_eq_true.mp hcode
  rw [beq_iff_eq] at hid
  subst hid
  exact List.any_eq_true.mpr ⟨d, hd, by rwa [activates_eq_passes, hnames r hr d hd]⟩

/-- Without restrictions every declared code is active. -/
theorem keeps_unrestricted {r : Rule} (hr : r ∈ s.rules) (d : Diagnostic) :
    s.unrestricted.keeps r d = r.declares d.code := by
  unfold keeps
  cases hcode : r.declares d.code with
  | false => rfl
  | true =>
      obtain ⟨e, he, hid⟩ := List.any_eq_true.mp hcode
      have hallows : s.unrestricted.allows d.code = true := by
        refine List.any_eq_true.mpr ⟨r, hr, List.any_eq_true.mpr ⟨e, he, ?_⟩⟩
        rw [hid, activates_unrestricted, Bool.and_true]
      rw [hallows, Bool.and_true]

/-! ## Calls -/

variable (s)

theorem retained_eq_filter :
    s.retained = s.unrestricted.retained.filter fun r => r.descriptors.any s.activates := by
  unfold retained
  rw [List.filter_filter]
  apply List.filter_congr
  intro r _
  -- a rule with a descriptor that is on has a descriptor
  cases hr : r.descriptors.any s.activates with
  | false => rfl
  | true =>
      obtain ⟨d, hd, -⟩ := List.any_eq_true.mp hr
      have hfull : r.descriptors.any s.unrestricted.activates = true :=
        List.any_eq_true.mpr ⟨d, hd, s.activates_unrestricted d⟩
      rw [hfull]
      rfl

/-- A restricted run makes those calls of the unrestricted run whose rule is retained. -/
theorem calls_eq_filter (unit : CompilationUnit) (model : Model) :
    s.calls unit model =
      (s.unrestricted.calls unit model).filter fun c => c.rule.descriptors.any s.activates := by
  unfold calls callsAt
  rw [List.filter_flatMap, effectiveSettings_unrestricted, retained_eq_filter]
  congr 1
  funext o
  rw [List.filter_flatMap, flatMap_filter_eq]
  congr 1
  funext r
  rw [List.filter_replicate]

theorem rule_mem_of_mem_calls {unit : CompilationUnit} {model : Model} {c : Call}
    (hc : c ∈ s.calls unit model) : c.rule ∈ s.rules := by
  obtain ⟨o, -, ho⟩ := List.mem_flatMap.mp hc
  obtain ⟨r, hr, hrep⟩ := List.mem_flatMap.mp ho
  rw [(List.mem_replicate.mp hrep).2]
  exact (List.mem_filter.mp hr).1

variable {s}

/-- Of a call that is dropped nothing passes, and of the others what is kept. -/
theorem filter_kept_unrestricted (hnames : NamesCodes nameOf s.rules) {c : Call} (hc : c.rule ∈ s.rules) :
    (s.unrestricted.kept c).filter (fun d => s.passes (nameOf d.code) d.code) =
      if c.rule.descriptors.any s.activates then s.kept c else [] := by
  unfold kept
  rw [List.filter_filter]
  by_cases hret : c.rule.descriptors.any s.activates
  · rw [if_pos hret]
    apply List.filter_congr
    intro d _
    rw [keeps_unrestricted hc, Bool.and_comm]
    unfold keeps
    cases hcode : c.rule.declares d.code with
    | false => rfl
    | true => rw [allows_eq_passes hnames hc hcode]
  · rw [if_neg hret, List.filter_eq_nil_iff]
    intro d _ hkeep
    rw [Bool.and_eq_true, keeps_unrestricted hc] at hkeep
    exact hret (any_activates_of_passes hnames hc hkeep.2 hkeep.1)

/-- What a restricted run keeps is what passes of what the unrestricted run keeps. -/
theorem flatMap_kept_eq_filter (hnames : NamesCodes nameOf s.rules) (unit : CompilationUnit)
    (model : Model) :
    (s.calls unit model).flatMap s.kept =
      ((s.unrestricted.calls unit model).flatMap s.unrestricted.kept).filter
        fun d => s.passes (nameOf d.code) d.code := by
  rw [calls_eq_filter, flatMap_filter_eq, List.filter_flatMap, List.flatMap_def, List.flatMap_def]
  congr 1
  apply List.map_congr_left
  intro c hc
  exact (filter_kept_unrestricted hnames (s.unrestricted.rule_mem_of_mem_calls hc)).symm

end Setup

/-! ## Result -/

/-- **Switches and selection only filter.** Let every code stand for one rule name, as it does for any
rules of the catalog. If the unrestricted analysis of a unit finishes, so does the restricted one, and it
returns the unrestricted result without two kinds of findings: those whose rule an entry switches off, under its
name or under the code, and, if anything is selected, those selected neither by their code, ASCII case aside, nor
by the name. -/
theorem analyzeUnit_restricted_eq_filter :
    (∀ registered : List Rule, (∀ r ∈ registered, r ∈ Catalog.rules) →
      NamesCodes Catalog.nameOf registered) ∧
    ∀ (s : Setup) (nameOf : String → String), NamesCodes nameOf s.rules →
      ∀ (full : Analyzer), s.unrestricted.build = .ok full →
      ∀ (unit : CompilationUnit) (model : Model) (ds : List Diagnostic),
        full.analyzeUnit unit model = .ok ds →
        ∃ a, s.build = .ok a ∧ a.analyzeUnit unit model = .ok
          (ds.filter fun d => s.config.switches.lookup (nameOf d.code) != some (some false) &&
            s.config.switches.lookup d.code != some (some false) &&
            (s.selection.isEmpty ||
              s.selection.any fun q => Text.sameIgnoringCase q d.code || q == nameOf d.code)) := by
  refine ⟨fun _ => Catalog.namesCodes, ?_⟩
  intro s nameOf hnames full hfull unit model ds hds
  obtain ⟨hvalid, rfl⟩ := s.unrestricted.build_eq_ok_iff.mp hfull
  obtain ⟨hall, rfl⟩ := s.unrestricted.analyzeUnit_eq_ok_iff.mp hds
  refine ⟨s.analyzer, s.build_eq_ok_iff.mpr ⟨hvalid, rfl⟩, s.analyzeUnit_eq_ok_iff.mpr ⟨?_, ?_⟩⟩
  · intro c hc
    rw [Setup.calls_eq_filter] at hc
    exact hall c (List.mem_filter.mp hc).1
  · simp only [← Setup.passes_eq]
    rw [Setup.flatMap_kept_eq_filter hnames, Diagnostic.sort_filter]

namespace Sample

/-- What is said of the data-access object. -/
def directAccess : Diagnostic where
  code := "RA15-001"
  rule := "architecture-violation"
  location := { file := "Pedidos.wsr/Pedido.cs", line := 0, column := 0 }
  message := "Service classes must not instantiate the data-access object 'ClienteDal' directly"

/-- What is said of the lines of the class. -/
def oversize : Diagnostic where
  code := "RA16-001"
  rule := "god-class"
  location := { file := "Pedidos.wsr/Pedido.cs", line := 1, column := 1 }
  message := "Class 'Pedido' has 600 lines (limit 500)"

/-- Without restrictions both are found: the class first, and at a later line. -/
theorem analyzeUnit_unrestricted :
    setup.unrestricted.analyzer.analyzeUnit unit model = .ok [directAccess, oversize] := by
  have hkept : (setup.unrestricted.calls unit model).flatMap setup.unrestricted.kept = [oversize, directAccess] := by
    decide +kernel
  rw [Setup.analyzeUnit_of_all_ok _ (Call.exists_ok_of_all_isOk (by decide +kernel)), hkept,
    Diagnostic.sort_of_perm (.swap directAccess oversize []) (by decide +kernel)]

end Sample

/-- Of the two findings in the sample unit the restricted run returns the one whose rule is not switched off. -/
theorem analyzeUnit_restricted_eq_filter_sample :
    NamesCodes Catalog.nameOf Sample.setup.rules ∧
    ∃ full, Sample.setup.unrestricted.build = .ok full ∧
      full.analyzeUnit Sample.unit Sample.model = .ok [Sample.directAccess, Sample.oversize] ∧
    ∃ a, Sample.setup.build = .ok a ∧ a.analyzeUnit Sample.unit Sample.model = .ok [Sample.directAccess] := by
  have hnames : NamesCodes Catalog.nameOf Sample.setup.rules := by
    apply analyzeUnit_restricted_eq_filter.1
    intro r hr
    rcases List.mem_cons.mp hr with rfl | hr
    · simp [Catalog.rules]
    · obtain rfl := List.mem_singleton.mp hr
      simp [Catalog.rules]
  have hbuild : Sample.setup.unrestricted.build = .ok Sample.setup.unrestricted.analyzer :=
    Sample.setup.unrestricted.build_eq_ok_iff.mpr
      ⟨(Sample.setup.build_eq_ok_iff.mp Sample.build_setup).1, rfl⟩
  obtain ⟨a, ha, hrestricted⟩ := analyzeUnit_restricted_eq_filter.2 Sample.setup _ hnames _ hbuild _ _ _
    Sample.analyzeUnit_unrestricted
  have hleft : ([Sample.directAccess, Sample.oversize].filter fun d =>
      Sample.setup.config.switches.lookup (Catalog.nameOf d.code) != some (some false) &&
      Sample.setup.config.switches.lookup d.code != some (some false) &&
      (Sample.setup.selection.isEmpty || Sample.setup.selection.any fun q =>
        Text.sameIgnoringCase q d.code || q == Catalog.nameOf d.code)) = [Sample.directAccess] := by decide +kernel
  rw [hleft] at hrestricted
  exact ⟨hnames, _, hbuild, Sample.analyzeUnit_unrestricted, a, ha, hrestricted⟩

end LayerLint
