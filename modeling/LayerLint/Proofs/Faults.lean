import LayerLint.Proofs.Answers
import LayerLint.Proofs.Workers

/-!
# `Proofs.Faults` — when an analysis with the built-in rules fails

Checks compute with lines and columns that a host supplies. Two sums can exceed a 64-bit word, and nothing
else can go wrong: positions in the table of rules are valid, and messages are cut between characters. So
the analysis of a unit fails only for a class that reaches from line 0 to the last line a word can name,
or for a point that lies too far behind the start of a line of the text.

## Contents
- **Lines.** `LineStartsAt`, said of the text alone; it is what `Text.lineStart?` finds.
- **Points.** `Span.points`, `Overflows`; the faults of `offsetFor` and of `UnitContext.location`.
- **Analyses.** `catalog_analysis_faults`.
-/

namespace LayerLint

/-! ## Lines -/

/-- **A line of the text starts at a byte offset.** What stands before it is some number of whole lines,
and something follows. -/
def LineStartsAt (text : List Char) (line start : Nat) : Prop :=
  ∃ before after, text = before ++ after ∧ after ≠ [] ∧ (before = [] ∨ before.getLast? = some '\n') ∧
    before.count '\n' + 1 = line ∧ Text.byteLength before = start

/-- The line that is found `i` lines further on starts behind `i` whole lines. -/
theorem Text.lineStart?_spec {s : List Char} {k i start : Nat}
    (h : Text.lineStart? k (Text.lines s) i = some start) :
    ∃ before after, s = before ++ after ∧ after ≠ [] ∧ (before = [] ∨ before.getLast? = some '\n') ∧
      before.count '\n' = i ∧ k + Text.byteLength before = start := by
  -- Along the text; `k` is the offset of its first character, so it moves on with each.
  induction s generalizing k i with
  | nil => simp [Text.lines, Text.lineStart?] at h
  | cons c s ih =>
      cases i with
      | zero =>
          rw [Text.lineStart?_first (List.cons_ne_nil c s)] at h
          exact ⟨[], c :: s, rfl, List.cons_ne_nil c s, .inl rfl, rfl, Option.some.inj h⟩
      | succ i =>
          by_cases hc : c = '\n'
          · subst hc
            rw [Text.lineStart?_feed] at h
            obtain ⟨before, after, rfl, hafter, hlast, hcount, hoffset⟩ := ih h
            refine ⟨'\n' :: before, after, rfl, hafter, .inr ?_, by rw [List.count_cons_self, hcount], ?_⟩
            · rcases hlast with rfl | hlast
              · rfl
              · rw [List.getLast?_cons, hlast]
                rfl
            · have hfeed : ('\n' : Char).utf8Size = 1 := by decide
              rw [Text.byteLength_cons, hfeed, ← hoffset]
              omega
          · rw [Text.lineStart?_cons hc] at h
            obtain ⟨before, after, rfl, hafter, hlast, hcount, hoffset⟩ := ih h
            refine ⟨c :: before, after, rfl, hafter, .inr ?_, ?_, ?_⟩
            · rcases hlast with rfl | hlast
              · cases hcount
              · rw [List.getLast?_cons, hlast]
                rfl
            · rw [List.count_cons_of_ne hc, hcount]
            · rw [Text.byteLength_cons, ← hoffset]
              omega

theorem LineStartsAt.le_byteLength {text : List Char} {line start : Nat} (h : LineStartsAt text line start) :
    start ≤ Text.byteLength text := by
  obtain ⟨before, after, rfl, -, -, -, rfl⟩ := h
  rw [Text.byteLength_append]
  omega

/-! ## Points -/

/-- A line and a column, both counted from 1. -/
structure Point where
  line : UInt64
  column : UInt64

/-- The two end points of a span. -/
def Span.points (s : Span) : List Point := [⟨s.startLine, s.startColumn⟩, ⟨s.endLine, s.endColumn⟩]

/-- **A point overflows**: its line exists in the text, and its column, counted from the start of that
line, lies beyond the last offset a word can hold. -/
def Overflows (text : List Char) (p : Point) : Prop :=
  ∃ start, LineStartsAt text p.line.toNat start ∧ wordBound ≤ start + (p.column.toNat - 1)

/-- An offset fails to be computed only at a point that overflows. -/
theorem offsetFor_eq_error {text : List Char} {line column : UInt64} {e : Fault}
    (h : offsetFor text line column = .error e) : e = .offsetOverflow ∧ Overflows text ⟨line, column⟩ := by
  unfold offsetFor at h
  by_cases hline : line = 0
  · rw [if_pos hline] at h
    cases h
  · rw [if_neg hline] at h
    have hpos : line.toNat ≠ 0 := fun hzero => hline (UInt64.toNat_inj.mp hzero)
    cases hstart : Text.lineStart? 0 (Text.lines text) (line.toNat - 1) with
    | none => rw [hstart] at h; cases h
    | some start =>
        rw [hstart] at h
        dsimp only at h
        split at h
        · cases h
        · next hbound =>
            obtain ⟨before, after, htext, hafter, hlast, hcount, hoffset⟩ := Text.lineStart?_spec hstart
            have hindex : before.count '\n' + 1 = line.toNat := by omega
            have hbytes : Text.byteLength before = start := by omega
            exact ⟨(Except.error.inj h).symm, start, ⟨before, after, htext, hafter, hlast, hindex, hbytes⟩,
              Nat.le_of_not_lt hbound⟩

theorem UnitContext.location_eq_error {c : UnitContext} {span : Span} {e : Fault}
    (h : c.location span = .error e) :
    e = .offsetOverflow ∧ ∃ p ∈ span.points, Overflows c.unit.text.toList p := by
  unfold location at h
  cases hstart : offsetFor c.unit.text.toList span.startLine span.startColumn with
  | error e' =>
      rw [hstart] at h
      obtain ⟨he, hpoint⟩ := offsetFor_eq_error hstart
      exact ⟨(Except.error.inj h).symm.trans he, _, .head _, hpoint⟩
  | ok start =>
      cases hstop : offsetFor c.unit.text.toList span.endLine span.endColumn with
      | error e' =>
          rw [hstart, hstop] at h
          obtain ⟨he, hpoint⟩ := offsetFor_eq_error hstop
          exact ⟨(Except.error.inj h).symm.trans he, _, .tail _ (.head _), hpoint⟩
      | ok stop =>
          rw [hstart, hstop] at h
          cases h

/-- No point overflows in a text of moderate length at a moderate column. -/
theorem not_overflows {text : List Char} {p : Point} (htext : Text.byteLength text < signedBound)
    (hcolumn : p.column.toNat < signedBound) : ¬Overflows text p := by
  rintro ⟨start, hstart, hbound⟩
  have hle := hstart.le_byteLength
  unfold signedBound at htext hcolumn
  unfold wordBound at hbound
  omega

/-! ## Analyses -/

/-- The lines of some class of the tree cannot be counted. -/
def LinesOverflow (root : Node) : Prop :=
  ∃ n ∈ root.preorder, n.kind = .classDecl ∧ n.span.startLine = 0 ∧ n.span.endLine = 0xFFFFFFFFFFFFFFFF

/-- Some point of the tree overflows. -/
def PointOverflows (unit : CompilationUnit) : Prop :=
  ∃ n ∈ unit.root.preorder, ∃ span ∈ n.spans, ∃ p ∈ span.points, Overflows unit.text.toList p

/-- A call of a built-in rule fails only by one of the two overflows. -/
theorem Call.run_eq_error {s : Setup} {unit : CompilationUnit} {model : Model} {c : Call} {e : Fault}
    (hrules : ∀ r ∈ s.rules, r ∈ Catalog.rules) (hc : c ∈ s.calls unit model) (h : c.run = .error e) :
    e = .lineCountOverflow ∧ LinesOverflow unit.root ∨ e = .offsetOverflow ∧ PointOverflows unit := by
  obtain ⟨hrule, hunit, hnode, hkind⟩ := Setup.of_mem_calls hc
  have hanswers := Catalog.answersAlways (hrules _ hrule) c.context
  rw [Call.run] at h
  rw [h] at hanswers
  rcases hanswers.fails with ⟨t, span, hspan, hsite, hlocation⟩ | ⟨hkinds, hlines⟩
  · obtain ⟨he, p, hp, hoverflow⟩ := UnitContext.location_eq_error hlocation
    rw [hunit] at hoverflow
    exact .inr ⟨he, t, Node.preorder_trans hnode hsite.mem_preorder, span, hspan, p, hp, hoverflow⟩
  · obtain ⟨hstart, hend, he⟩ := Span.lineCount_eq_error_iff.mp hlines
    rw [hkinds, List.mem_singleton] at hkind
    exact .inl ⟨he, _, hnode, hkind, hstart, hend⟩

/-- **Faults of the built-in rules.** An analysis with built-in rules fails only by one of two overflows:
the lines of a class from line 0 to the last line a word can name, or a point whose line is in the text and
whose offset exceeds a word. In a text of less than 2⁶³ bytes, with all lines and columns below 2⁶³, it
finishes and the unit is counted. Messages add no fault: a format is cut between characters. -/
theorem catalog_analysis_faults {s : Setup} {a : Analyzer} (hrules : ∀ r ∈ s.rules, r ∈ Catalog.rules)
    (hbuild : s.build = .ok a) (unit : CompilationUnit) (model : Model) :
    (∀ e, a.analyzeUnit unit model = .error e →
      e = .lineCountOverflow ∧ LinesOverflow unit.root ∨ e = .offsetOverflow ∧ PointOverflows unit) ∧
    (Text.byteLength unit.text.toList < signedBound →
      (∀ n ∈ unit.root.preorder, ∀ span ∈ n.spans, ∀ p ∈ span.points,
        p.line.toNat < signedBound ∧ p.column.toNat < signedBound) →
      (∃ ds, a.analyzeUnit unit model = .ok ds) ∧
        ∀ before after, (a.analyzeAll (before ++ (unit, model) :: after) false).unitsChecked =
          (a.analyzeAll (before ++ after) false).unitsChecked + 1) ∧
    ∀ format args, Message.render? format args = some (Message.fill format args) := by
  obtain ⟨-, rfl⟩ := s.build_eq_ok_iff.mp hbuild
  have hfaults : ∀ e, s.analyzer.analyzeUnit unit model = .error e →
      e = .lineCountOverflow ∧ LinesOverflow unit.root ∨ e = .offsetOverflow ∧ PointOverflows unit := by
    intro e he
    obtain ⟨before, c, after, hcalls, -, hc⟩ := s.analyzeUnit_eq_error_iff.mp he
    exact Call.run_eq_error hrules (hcalls ▸ by simp : c ∈ s.calls unit model) hc
  refine ⟨hfaults, fun htext hpoints => ?_, Message.render?_eq_fill⟩
  have hok : ∃ ds, s.analyzer.analyzeUnit unit model = .ok ds := by
    cases hres : s.analyzer.analyzeUnit unit model with
    | ok ds => exact ⟨ds, rfl⟩
    | error e =>
        rcases hfaults e hres with ⟨-, n, hn, -, -, hend⟩ | ⟨-, n, hn, span, hspan, p, hp, hoverflow⟩
        · have hline : n.span.endLine.toNat < signedBound :=
            (hpoints n hn n.span n.span_mem_spans _ (.tail _ (.head _))).1
          rw [hend] at hline
          exact absurd hline (by decide)
        · exact absurd hoverflow (not_overflows htext (hpoints n hn span hspan p hp).2)
  refine ⟨hok, fun before after => ?_⟩
  obtain ⟨ds, hds⟩ := hok
  have hfinishes : s.analyzer.finishes (unit, model) = true := by rw [Analyzer.finishes, hds]; rfl
  simp only [Analyzer.analyzeAll_eq, List.countP_append, List.countP_cons, hfinishes, if_true]
  omega

namespace Sample

/-- All built-in rules, with nothing switched off. -/
def catalog : Setup where
  rules := Catalog.rules

theorem build_catalog : catalog.build = .ok catalog.analyzer :=
  catalog.build_eq_ok_iff.mpr ⟨by decide +kernel, rfl⟩

end Sample

theorem catalog_analysis_faults_sample :
    ∃ a, Sample.catalog.build = .ok a ∧ (∃ ds, a.analyzeUnit Sample.unit Sample.model = .ok ds) ∧
      (a.analyzeAll [(Sample.unit, Sample.model)] false).unitsChecked = 1 := by
  have hrules : ∀ r ∈ Sample.catalog.rules, r ∈ Catalog.rules := fun _ hr => hr
  obtain ⟨hok, hcounted⟩ :=
    (catalog_analysis_faults hrules Sample.build_catalog Sample.unit Sample.model).2.1 (by decide) (by decide)
  exact ⟨_, Sample.build_catalog, hok, hcounted [] []⟩

end LayerLint
