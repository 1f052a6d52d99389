import LayerLint.Proofs.Calls
import LayerLint.Proofs.Workers

/-!
# `Proofs.Histories` — what a sink holds after any history

A sink outlives the analyses that report to it: findings are handed to it directly, units are analysed
into it by one analyzer after the other, and some of these analyses fail half-way. What it holds is settled
by the operations alone. An operation adds its whole **contribution** or, if it is an analysis that fails,
nothing at all.

## Contents
- **Operations.** `Sink.Operation`, `Sink.Session`, `Session.step`, `Session.run`.
- **Contributions.** `Operation.contribution`, `Operation.answer?`, and what one step makes of them.
- **Histories.** What a run makes of them, and from it `sink_history`.
-/

namespace LayerLint

namespace Sink

/-! ## Operations -/

/-- What is done to a sink, or to the cancellation token beside it. -/
inductive Operation where
  /-- Findings are reported. -/
  | report (ds : List Diagnostic)
  /-- A unit is analysed into the sink. -/
  | analyze (a : Analyzer) (unit : CompilationUnit) (model : Model)
  /-- The token is cancelled, or a new one takes its place. -/
  | token (cancelled : Bool)

/-- A sink with a cancellation token beside it. -/
structure Session where
  sink : Sink := {}
  cancelled : Bool := false

namespace Session

/-- Carries out an operation. An analysis answers whether it finished. -/
def step (s : Session) : Operation → Option Bool × Session
  | .report ds => (none, { s with sink := s.sink.report ds })
  | .analyze a unit model =>
      let (finished, sink) := a.analyzeInto unit model s.sink
      (some finished, { s with sink })
  | .token cancelled => (none, { s with cancelled })

/-- Carries out operations one after the other, with the answers of the analyses among them. -/
def run (s : Session) : List Operation → List Bool × Session
  | [] => ([], s)
  | op :: ops =>
      let (answer, next) := s.step op
      let (answers, last) := next.run ops
      (answer.toList ++ answers, last)

/-- An empty sink beside a token. -/
def start (cancelled : Bool) : Session := { cancelled }

/-- Where operations on an empty sink lead. -/
def after (cancelled : Bool) (ops : List Operation) : Session := ((start cancelled).run ops).2

end Session

/-! ## Contributions -/

namespace Operation

/-- The findings an operation adds: those reported, or those an analysis returns. -/
def contribution : Operation → List Diagnostic
  | report ds => ds
  | analyze a unit model => a.findings (unit, model)
  | token _ => []

/-- What an operation answers. -/
def answer? : Operation → Option Bool
  | analyze a unit model => some (a.finishes (unit, model))
  | report _ | token _ => none

/-- The operation is about the token. -/
def isToken : Operation → Bool
  | token _ => true
  | report _ | analyze .. => false

end Operation

namespace Session

variable (s : Session) (op : Operation) (ops : List Operation)

theorem step_fst : (s.step op).1 = op.answer? := by
  cases op with
  | report ds => rfl
  | token cancelled => rfl
  | analyze a unit model =>
      rw [step, a.analyzeInto_eq (unit, model) s.sink]
      rfl

/-- A step appends the contribution of its operation. -/
theorem sink_step : (s.step op).2.sink = s.sink.report op.contribution := by
  cases op with
  | report ds => rfl
  | analyze a unit model =>
      rw [step, a.analyzeInto_eq (unit, model) s.sink]
      rfl
  | token cancelled =>
      show s.sink = s.sink.report []
      rw [report, List.append_nil]

/-- An analysis that finishes adds what it returns. -/
theorem step_analyze_of_ok {a : Analyzer} {unit : CompilationUnit} {model : Model} {ds : List Diagnostic}
    (h : a.analyzeUnit unit model = .ok ds) :
    s.step (.analyze a unit model) = (some true, { s with sink := s.sink.report ds }) := by
  rw [step, Analyzer.analyzeInto, h]

/-- An analysis that fails leaves everything as it was. -/
theorem step_analyze_of_error {a : Analyzer} {unit : CompilationUnit} {model : Model} {e : Fault}
    (h : a.analyzeUnit unit model = .error e) : s.step (.analyze a unit model) = (some false, s) := by
  rw [step, Analyzer.analyzeInto, h]

/-! ## Histories -/

theorem run_fst : (s.run ops).1 = ops.filterMap Operation.answer? := by
  induction ops generalizing s with
  | nil => rfl
  | cons op ops ih =>
      show (s.step op).1.toList ++ ((s.step op).2.run ops).1 = _
      rw [ih, step_fst, List.filterMap_cons]
      cases op.answer? <;> rfl

/-- A run appends the contributions of its operations in order. -/
theorem sink_run : (s.run ops).2.sink = s.sink.report (ops.flatMap Operation.contribution) := by
  induction ops generalizing s with
  | nil =>
      show s.sink = s.sink.report []
      rw [report, List.append_nil]
  | cons op ops ih =>
      show ((s.step op).2.run ops).2.sink = _
      rw [ih, sink_step, report, report, report, List.flatMap_cons, List.append_assoc]

/-- The sink holds the contributions in order. -/
theorem sink_after (cancelled : Bool) : (after cancelled ops).sink = ⟨ops.flatMap Operation.contribution⟩ := by
  rw [after, sink_run]
  rfl

theorem length_after (cancelled : Bool) :
    (after cancelled ops).sink.length = (ops.flatMap Operation.contribution).length := by
  rw [sink_after]
  rfl

end Session

namespace Operation

/-- Operations on the token answer nothing. -/
theorem filterMap_answer?_filter (ops : List Operation) :
    (ops.filter (!·.isToken)).filterMap answer? = ops.filterMap answer? := by
  rw [List.filterMap_filter]
  apply List.filterMap_congr
  intro op _
  cases op <;> rfl

/-- Operations on the token contribute nothing. -/
theorem flatMap_contribution_filter (ops : List Operation) :
    (ops.filter (!·.isToken)).flatMap contribution = ops.flatMap contribution := by
  induction ops with
  | nil => rfl
  | cons op ops ih =>
      rw [List.flatMap_cons, ← ih]
      cases op <;> rfl

end Operation

end Sink

open Sink

/-- If some call fails, so does the analysis. -/
theorem Setup.exists_error_of_mem {s : Setup} {a : Analyzer} (hbuild : s.build = .ok a)
    {unit : CompilationUnit} {model : Model} {c : Call} (hc : c ∈ s.calls unit model) {e : Fault}
    (he : c.run = .error e) : ∃ e', a.analyzeUnit unit model = .error e' := by
  obtain ⟨-, rfl⟩ := s.build_eq_ok_iff.mp hbuild
  cases hres : s.analyzer.analyzeUnit unit model with
  | error e' => exact ⟨e', rfl⟩
  | ok ds =>
      -- an analysis that finishes has carried out every call
      obtain ⟨es, hes⟩ := (s.analyzeUnit_eq_ok_iff.mp hres).1 c hc
      rw [he] at hes
      cases hes

/-- **What a sink holds after any history.** Operations are carried out on an empty sink. After each of
them its length is the number of findings contributed so far. An analysis that finishes adds what it
returns; one in which some call fails answers no and leaves everything as it was, whatever the calls before
had found. The token is never looked at: with another token, and without the operations on it, the answers
and the sink are the same. In the end the sink gives the stable sort of all contributions in order. -/
theorem sink_history (ops : List Operation) (cancelled : Bool) :
    (∀ before rest, ops = before ++ rest →
      (Session.after cancelled before).sink.length = total (before.map fun op => op.contribution.length)) ∧
    (∀ before a unit model rest, ops = before ++ .analyze a unit model :: rest →
      (∀ ds, a.analyzeUnit unit model = .ok ds →
        (Session.after cancelled before).step (.analyze a unit model) =
          (some true, { Session.after cancelled before with
            sink := (Session.after cancelled before).sink.report ds })) ∧
      (∀ e, a.analyzeUnit unit model = .error e →
        (Session.after cancelled before).step (.analyze a unit model) =
          (some false, Session.after cancelled before)) ∧
      ∀ s : Setup, s.build = .ok a → ∀ c ∈ s.calls unit model, ∀ e, c.run = .error e →
        (Session.after cancelled before).step (.analyze a unit model) =
          (some false, Session.after cancelled before)) ∧
    (∀ cancelled',
      ((Session.start cancelled').run (ops.filter (!·.isToken))).1 = ((Session.start cancelled).run ops).1 ∧
      (Session.after cancelled' (ops.filter (!·.isToken))).sink = (Session.after cancelled ops).sink) ∧
    Diagnostic.IsStableSort (ops.flatMap Operation.contribution) (Session.after cancelled ops).sink.sorted := by
  refine ⟨fun before rest _ => ?_, fun before a unit model rest _ => ⟨?_, ?_, ?_⟩, fun cancelled' => ⟨?_, ?_⟩, ?_⟩
  · rw [Session.length_after, length_flatMap_eq_total]
  · intro ds hds
    exact Session.step_analyze_of_ok _ hds
  · intro e he
    exact Session.step_analyze_of_error _ he
  · intro s hbuild c hc e he
    obtain ⟨e', he'⟩ := s.exists_error_of_mem hbuild hc he
    exact Session.step_analyze_of_error _ he'
  · rw [Session.run_fst, Session.run_fst, Operation.filterMap_answer?_filter]
  · rw [Session.sink_after, Session.sink_after, Operation.flatMap_contribution_filter]
  · rw [Session.sink_after]
    exact Diagnostic.isStableSort_sort _

end LayerLint
