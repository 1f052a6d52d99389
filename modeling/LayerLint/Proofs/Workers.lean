import LayerLint.Analyzer
import Mathlib.Data.Finset.Card
import Mathlib.Data.Fintype.Basic
import Mathlib.Data.List.Nodup

/-!
# `Proofs.Workers` — units analysed by several workers at once

Workers take the units of a list in any order. A worker looks at the cancellation token once, before it
starts a unit; it then analyses the unit on its own, appends the findings to the shared sink in one go,
and counts the unit in a step of its own. The token may be cancelled at any moment. A **run** is any
interleaving of these steps, and what it returns is settled by which units were started.

## Contents
- **One unit after the other.** `Analyzer.findings`, `Analyzer.finishes`, and `analyzeAll_eq`.
- **Runs.** `Stage`, `State`, `Event`, `Step`, `Run`: the steps and their interleavings.
- **What a step does.** `Turn`, to one unit; `Step.turn`, `Step.sink`, `Step.cancelled_eq`.
- **Invariant.** `Inv` relates the sink and the counter to the events so far; each step keeps it
  (`inv_step`), hence each run does (`inv_run`).
- **Cancellation.** `Run.not_start_of_cancelled`.
- **Completion.** `exists_complete`: a run never gets stuck, and it may take the units in any order.
- **Failing units.** `exists_run_without`: without a unit that fails a run goes on as before.
-/

namespace LayerLint

/-! ## One unit after the other -/

namespace Analyzer

variable (a : Analyzer)

/-- The findings in a unit; none if its analysis fails. -/
def findings (u : CompilationUnit × Model) : List Diagnostic :=
  match a.analyzeUnit u.1 u.2 with
  | .ok ds => ds
  | .error _ => []

/-- The analysis of the unit finishes. -/
def finishes (u : CompilationUnit × Model) : Bool := (a.analyzeUnit u.1 u.2).isOk

theorem findings_of_not_finishes {u : CompilationUnit × Model} (h : ¬a.finishes u) : a.findings u = [] := by
  unfold finishes at h
  unfold findings
  cases hu : a.analyzeUnit u.1 u.2 with
  | ok ds => rw [hu] at h; exact absurd rfl h
  | error e => rfl

/-- Analysing a unit into a sink appends its findings; one that fails has none. -/
theorem analyzeInto_eq (u : CompilationUnit × Model) (sink : Sink) :
    a.analyzeInto u.1 u.2 sink = (a.finishes u, sink.report (a.findings u)) := by
  unfold analyzeInto finishes findings
  cases a.analyzeUnit u.1 u.2 with
  | ok ds => rfl
  | error e =>
      show (false, sink) = (false, sink.report [])
      rw [Sink.report, List.append_nil]

theorem analyzeInto_eq_iff {u : CompilationUnit × Model} {finished : Bool} {sink sink' : Sink} :
    a.analyzeInto u.1 u.2 sink = (finished, sink') ↔
      a.finishes u = finished ∧ sink.report (a.findings u) = sink' := by
  rw [analyzeInto_eq, Prod.mk.injEq]

/-- Units analysed in order are counted if they finish and add their findings in order. -/
theorem collect_eq (units : List (CompilationUnit × Model)) :
    a.collect units = (units.countP a.finishes, ⟨units.flatMap a.findings⟩) := by
  -- For every counter and sink to start from, by induction on the units.
  have hfold : ∀ (us : List (CompilationUnit × Model)) (count : Nat) (sink : Sink),
      us.foldl (fun p u => (if (a.analyzeInto u.1 u.2 p.2).1 then p.1 + 1 else p.1,
          (a.analyzeInto u.1 u.2 p.2).2)) (count, sink) =
        (count + us.countP a.finishes, ⟨sink.diagnostics ++ us.flatMap a.findings⟩) := by
    intro us
    induction us with
    | nil => intro count sink; simp
    | cons u us ih =>
        intro count sink
        rw [List.foldl_cons]
        simp only [a.analyzeInto_eq u sink]
        rw [ih, List.countP_cons, List.flatMap_cons]
        cases a.finishes u with
        | false => simp [Sink.report]
        | true => simp [Sink.report, Nat.add_assoc, Nat.add_comm 1]
  have hcollect : a.collect units = (0 + units.countP a.finishes, ⟨[] ++ units.flatMap a.findings⟩) :=
    hfold units 0 {}
  rw [hcollect, Nat.zero_add, List.nil_append]

theorem analyzeAll_eq (units : List (CompilationUnit × Model)) :
    a.analyzeAll units false =
      { diagnostics := Diagnostic.sort (units.flatMap a.findings)
        unitsChecked := units.countP a.finishes } := by
  simp [analyzeAll, collect_eq, Sink.sorted]

theorem analyzeAll_cancelled (units : List (CompilationUnit × Model)) :
    a.analyzeAll units true = a.analyzeAll [] false := rfl

/-- Units that fail may be left out. -/
theorem analyzeAll_filter_finishes (units : List (CompilationUnit × Model)) :
    a.analyzeAll (units.filter a.finishes) false = a.analyzeAll units false := by
  have hfindings : (units.filter a.finishes).flatMap a.findings = units.flatMap a.findings := by
    induction units with
    | nil => rfl
    | cons u units ih =>
        by_cases hu : a.finishes u
        · rw [List.filter_cons_of_pos hu, List.flatMap_cons, List.flatMap_cons, ih]
        · rw [List.filter_cons_of_neg hu, List.flatMap_cons, ih, a.findings_of_not_finishes hu, List.nil_append]
  rw [analyzeAll_eq, analyzeAll_eq, hfindings, List.countP_filter]
  simp only [Bool.and_self]

end Analyzer

/-! ## Runs -/

namespace Workers

/-- How far the handling of a unit has come. -/
inductive Stage where
  /-- No worker has taken the unit. -/
  | waiting
  /-- A worker saw the token not cancelled and is analysing the unit. -/
  | running
  /-- The findings are in the sink. -/
  | reported
  /-- The unit is counted, too. -/
  | counted
  /-- The analysis failed. -/
  | failed
  /-- A worker saw the token cancelled and left the unit alone. -/
  | skipped
  deriving DecidableEq, Repr

namespace Stage

/-- Nothing more happens to the unit. -/
def isFinal : Stage → Bool
  | counted | failed | skipped => true
  | waiting | running | reported => false

/-- A worker started the unit. -/
def isStarted : Stage → Bool
  | running | reported | counted | failed => true
  | waiting | skipped => false

/-- The findings of the unit are in the sink. -/
def isReported : Stage → Bool
  | reported | counted => true
  | waiting | running | failed | skipped => false

end Stage

/-- What the workers share, and where the units stand. -/
structure State (n : Nat) where
  stage : Fin n → Stage
  sink : Sink
  count : Nat
  cancelled : Bool

namespace State

variable {n : Nat} (s : State n) (i : Fin n) (stage : Stage)

/-- Before the first step. -/
def initial (n : Nat) (cancelled : Bool) : State n := ⟨fun _ => .waiting, {}, 0, cancelled⟩

/-- Moves one unit to another stage. -/
def move : State n := { s with stage := fun j => if j = i then stage else s.stage j }

/-- The units that have been counted. -/
def counted : Finset (Fin n) := {i | s.stage i = .counted}

/-- Every unit has been dealt with. -/
def Done : Prop := ∀ i, (s.stage i).isFinal

/-- What is returned in the end. -/
def result : LintResult := { diagnostics := s.sink.sorted, unitsChecked := s.count }

@[simp] theorem mem_counted {i : Fin n} : i ∈ s.counted ↔ s.stage i = .counted := by
  rw [counted, Finset.mem_filter, and_iff_right (Finset.mem_univ i)]

@[simp] theorem stage_move_self : (s.move i stage).stage i = stage := if_pos rfl

@[simp] theorem stage_move_of_ne {i j : Fin n} (h : j ≠ i) : (s.move i stage).stage j = s.stage j :=
  if_neg h

@[simp] theorem sink_move : (s.move i stage).sink = s.sink := rfl

@[simp] theorem count_move : (s.move i stage).count = s.count := rfl

@[simp] theorem cancelled_move : (s.move i stage).cancelled = s.cancelled := rfl

end State

/-- What happens, to the unit at an index or to the token. -/
inductive Event (n : Nat) where
  | start (i : Fin n)
  | skip (i : Fin n)
  | report (i : Fin n)
  | fail (i : Fin n)
  | count (i : Fin n)
  | cancel
  deriving DecidableEq, Repr

namespace Event

variable {n : Nat}

/-- The unit whose findings went into the sink. -/
def reported? : Event n → Option (Fin n)
  | report i => some i
  | _ => none

/-- The event is about the unit. -/
def isAbout (i : Fin n) : Event n → Bool
  | start j | skip j | report j | fail j | count j => j = i
  | cancel => false

end Event

/-- The units whose findings went into the sink, in that order. -/
def reportOrder {n : Nat} (trace : List (Event n)) : List (Fin n) := trace.filterMap Event.reported?

@[simp] theorem reportOrder_singleton {n : Nat} (e : Event n) : reportOrder [e] = e.reported?.toList := by
  rw [reportOrder]
  cases h : e.reported? <;> simp [h]

@[simp] theorem mem_reportOrder {n : Nat} {trace : List (Event n)} {i : Fin n} :
    i ∈ reportOrder trace ↔ .report i ∈ trace := by
  rw [reportOrder, List.mem_filterMap]
  constructor
  · rintro ⟨e, he, hi⟩
    cases e <;> simp_all [Event.reported?]
  · intro he
    exact ⟨.report i, he, rfl⟩

@[simp] theorem reportOrder_append {n : Nat} (trace more : List (Event n)) :
    reportOrder (trace ++ more) = reportOrder trace ++ reportOrder more := List.filterMap_append

section Runs

variable (a : Analyzer) (units : List (CompilationUnit × Model))

/-- **A step of a worker, or of whoever cancels.** The sink changes by a whole `analyzeInto` at once;
the counter changes later. -/
inductive Step : State units.length → Event units.length → State units.length → Prop
  | start {s i} : s.stage i = .waiting → s.cancelled = false → Step s (.start i) (s.move i .running)
  | skip {s i} : s.stage i = .waiting → s.cancelled = true → Step s (.skip i) (s.move i .skipped)
  | report {s i sink} : s.stage i = .running →
      a.analyzeInto (units.get i).1 (units.get i).2 s.sink = (true, sink) →
      Step s (.report i) { s.move i .reported with sink }
  | fail {s i sink} : s.stage i = .running →
      a.analyzeInto (units.get i).1 (units.get i).2 s.sink = (false, sink) →
      Step s (.fail i) { s.move i .failed with sink }
  | count {s i} : s.stage i = .reported →
      Step s (.count i) { s.move i .counted with count := s.count + 1 }
  | cancel {s} : Step s .cancel { s with cancelled := true }

/-- **A run**: steps in any order that the steps allow. -/
inductive Run : State units.length → List (Event units.length) → State units.length → Prop
  | nil {s} : Run s [] s
  | cons {s s' s'' e trace} : Step a units s e s' → Run s' trace s'' → Run s (e :: trace) s''

end Runs

variable {a : Analyzer} {units : List (CompilationUnit × Model)}
variable {s s' s'' : State units.length} {trace more : List (Event units.length)}

theorem Run.single {e : Event units.length} (h : Step a units s e s') : Run a units s [e] s' :=
  Run.cons h Run.nil

theorem Run.trans (h : Run a units s trace s') (h' : Run a units s' more s'') :
    Run a units s (trace ++ more) s'' := by
  induction h with
  | nil => exact h'
  | cons hstep _ ih => exact Run.cons hstep (ih h')

/-- A run passes through a state after each part of its trace. -/
theorem Run.split (h : Run a units s (trace ++ more) s'') :
    ∃ s', Run a units s trace s' ∧ Run a units s' more s'' := by
  induction trace generalizing s with
  | nil => exact ⟨s, Run.nil, h⟩
  | cons e trace ih =>
      cases h with
      | cons hstep hrest =>
          obtain ⟨s', h1, h2⟩ := ih hrest
          exact ⟨s', Run.cons hstep h1, h2⟩

/-! ## What a step does -/

/-- **What an event does to one unit**: nothing unless it is about that unit. -/
inductive Turn (a : Analyzer) (units : List (CompilationUnit × Model)) (cancelled : Bool)
    (j : Fin units.length) : Event units.length → Stage → Stage → Prop
  | other {e stage} : e.isAbout j = false → Turn a units cancelled j e stage stage
  | start : cancelled = false → Turn a units cancelled j (.start j) .waiting .running
  | skip : cancelled = true → Turn a units cancelled j (.skip j) .waiting .skipped
  | report : a.finishes (units.get j) = true → Turn a units cancelled j (.report j) .running .reported
  | fail : a.finishes (units.get j) = false → Turn a units cancelled j (.fail j) .running .failed
  | count : Turn a units cancelled j (.count j) .reported .counted

section Steps

variable {e : Event units.length}

theorem Step.turn (h : Step a units s e s') (j : Fin units.length) :
    Turn a units s.cancelled j e (s.stage j) (s'.stage j) := by
  -- A unit that is moved takes the turn of its event; to any other unit the event is a foreign one.
  have hmove : ∀ {i : Fin units.length} {stage : Stage}, (i ≠ j → e.isAbout j = false) →
      Turn a units s.cancelled i e (s.stage i) stage →
      Turn a units s.cancelled j e (s.stage j) ((s.move i stage).stage j) := by
    intro i stage habout hturn
    by_cases hj : j = i
    · subst hj
      rw [State.stage_move_self]
      exact hturn
    · rw [State.stage_move_of_ne s stage hj]
      exact Turn.other (habout (Ne.symm hj))
  cases h with
  | start hw hc => exact hmove (by simp [Event.isAbout]) (by rw [hw]; exact Turn.start hc)
  | skip hw hc => exact hmove (by simp [Event.isAbout]) (by rw [hw]; exact Turn.skip hc)
  | report hr ha =>
      have hfin := (a.analyzeInto_eq_iff.mp ha).1
      exact hmove (by simp [Event.isAbout]) (by rw [hr]; exact Turn.report hfin)
  | fail hr ha =>
      have hfin := (a.analyzeInto_eq_iff.mp ha).1
      exact hmove (by simp [Event.isAbout]) (by rw [hr]; exact Turn.fail hfin)
  | count hr => exact hmove (by simp [Event.isAbout]) (by rw [hr]; exact Turn.count)
  | cancel => exact Turn.other rfl

/-- A step adds to the sink the findings of the unit it reports. -/
theorem Step.sink (h : Step a units s e s') :
    s'.sink.diagnostics =
      s.sink.diagnostics ++ (reportOrder [e]).flatMap fun i => a.findings (units.get i) := by
  cases h with
  | report hr ha =>
      obtain ⟨-, rfl⟩ := a.analyzeInto_eq_iff.mp ha
      simp [Event.reported?, Sink.report]
  | fail hr ha =>
      obtain ⟨hfin, rfl⟩ := a.analyzeInto_eq_iff.mp ha
      simp [Event.reported?, Sink.report, a.findings_of_not_finishes (by simpa using hfin)]
  | start | skip | count | cancel => simp [Event.reported?]

theorem Step.cancelled_eq (h : Step a units s e s') :
    s'.cancelled = (s.cancelled || decide (e = .cancel)) := by
  cases h <;> simp

end Steps

section Turns

variable {cancelled : Bool} {j : Fin units.length} {e : Event units.length} {stage stage' : Stage}

/-- A unit becomes started by its own `start` and in no other way, and it stays so. -/
theorem Turn.isStarted_iff (h : Turn a units cancelled j e stage stage') :
    stage'.isStarted ↔ stage.isStarted ∨ e = .start j := by
  cases h with
  | other he => cases e <;> simp_all [Event.isAbout]
  | start | skip | report | fail | count => simp [Stage.isStarted]

/-- The findings of a unit get into the sink by its own `report` and stay there. -/
theorem Turn.isReported_iff (h : Turn a units cancelled j e stage stage') :
    stage'.isReported ↔ stage.isReported ∨ e = .report j := by
  cases h with
  | other he => cases e <;> simp_all [Event.isAbout]
  | start | skip | report | fail | count => simp [Stage.isReported]

theorem Turn.counted_iff (h : Turn a units cancelled j e stage stage') :
    stage' = .counted ↔ stage = .counted ∨ e = .count j := by
  cases h with
  | other he => cases e <;> simp_all [Event.isAbout]
  | start | skip | report | fail | count => simp

end Turns

theorem Step.counted_of_count {i : Fin units.length} (h : Step a units s (.count i) s') :
    s'.counted = insert i s.counted := by
  ext j
  rw [Finset.mem_insert, State.mem_counted, State.mem_counted, (h.turn j).counted_iff,
    Event.count.injEq, eq_comm (a := i), or_comm]

theorem Step.counted_eq {e : Event units.length} (h : Step a units s e s') (he : ∀ i, e ≠ .count i) :
    s'.counted = s.counted := by
  ext j
  rw [State.mem_counted, State.mem_counted, (h.turn j).counted_iff, or_iff_left (he j)]

/-! ## Invariant -/

/-- **What the events so far say about the state.** The sink follows the `report` events, the counter the
units counted. The two are not tied to one another: a unit may be in the sink and not yet counted. -/
structure Inv (a : Analyzer) (units : List (CompilationUnit × Model)) (trace : List (Event units.length))
    (s : State units.length) : Prop where
  started : ∀ i, .start i ∈ trace ↔ (s.stage i).isStarted
  reported : ∀ i, .report i ∈ trace ↔ (s.stage i).isReported
  reported_once : (reportOrder trace).Nodup
  sink : s.sink.diagnostics = (reportOrder trace).flatMap fun i => a.findings (units.get i)
  count : s.count = s.counted.card
  finishes : ∀ i, (s.stage i).isReported → a.finishes (units.get i) = true
  failed : ∀ i, s.stage i = .failed → a.finishes (units.get i) = false
  skipped : ∀ i, s.stage i = .skipped → s.cancelled = true

theorem inv_initial (cancelled : Bool) : Inv a units [] (State.initial units.length cancelled) where
  started i := by simp [State.initial, Stage.isStarted]
  reported i := by simp [State.initial, Stage.isReported]
  reported_once := List.nodup_nil
  sink := rfl
  count := by simp [State.initial, State.counted]
  finishes i h := by simp [State.initial, Stage.isReported] at h
  failed i h := by simp [State.initial] at h
  skipped i h := by simp [State.initial] at h

section

variable {e : Event units.length}

theorem Inv.reported_once_step (hinv : Inv a units trace s) (h : Step a units s e s') :
    (reportOrder (trace ++ [e])).Nodup := by
  rw [reportOrder_append]
  cases h with
  | @report i sink hr ha =>
      have hfresh : .report i ∉ trace := by
        rw [hinv.reported i, hr]
        simp [Stage.isReported]
      exact List.Nodup.append hinv.reported_once (List.nodup_singleton i)
        (List.disjoint_singleton.mpr (by simpa using hfresh))
  | start | skip | fail | count | cancel => simpa [Event.reported?] using hinv.reported_once

theorem Inv.count_step (hinv : Inv a units trace s) (h : Step a units s e s') :
    s'.count = s'.counted.card := by
  cases e with
  | count i =>
      rw [h.counted_of_count]
      cases h with
      | count hr =>
          have hnew : i ∉ s.counted := by simp [hr]
          rw [Finset.card_insert_of_notMem hnew, ← hinv.count]
  | start | skip | report | fail | cancel =>
      rw [h.counted_eq nofun, ← hinv.count]
      cases h
      rfl

/-- **One step keeps the invariant.** -/
theorem inv_step (hinv : Inv a units trace s) (h : Step a units s e s') : Inv a units (trace ++ [e]) s' where
  started i := by
    rw [List.mem_append, List.mem_singleton, hinv.started, (h.turn i).isStarted_iff, eq_comm (a := e)]
  reported i := by
    rw [List.mem_append, List.mem_singleton, hinv.reported, (h.turn i).isReported_iff, eq_comm (a := e)]
  reported_once := hinv.reported_once_step h
  sink := by rw [h.sink, hinv.sink, reportOrder_append, List.flatMap_append]
  count := hinv.count_step h
  finishes i hi := by
    have hbefore := hinv.finishes i
    have hturn := h.turn i
    generalize s.stage i = stage, s'.stage i = stage' at hbefore hturn hi
    cases hturn with
    | other | count => exact hbefore hi
    | report hfin => exact hfin
    | start | skip | fail => simp [Stage.isReported] at hi
  failed i hi := by
    have hbefore := hinv.failed i
    have hturn := h.turn i
    generalize s.stage i = stage, s'.stage i = stage' at hbefore hturn hi
    cases hturn with
    | other => exact hbefore hi
    | fail hfin => exact hfin
    | start | skip | report | count => cases hi
  skipped i hi := by
    have hbefore := hinv.skipped i
    have hturn := h.turn i
    rw [h.cancelled_eq]
    generalize s.stage i = stage, s'.stage i = stage' at hbefore hturn hi
    cases hturn with
    | other => rw [hbefore hi, Bool.true_or]
    | skip hc => rw [hc, Bool.true_or]
    | start | report | fail | count => cases hi

end

/-- **A run keeps the invariant**, by induction on its steps. -/
theorem inv_run (hinv : Inv a units trace s) (h : Run a units s more s') : Inv a units (trace ++ more) s' := by
  induction h generalizing trace with
  | nil => rwa [List.append_nil]
  | cons hstep _ ih =>
      have hnext := ih (inv_step hinv hstep)
      rwa [List.append_assoc] at hnext

/-- The invariant holds after every run from the start. -/
theorem Run.inv {cancelled : Bool} (h : Run a units (State.initial units.length cancelled) trace s) :
    Inv a units trace s := inv_run (inv_initial cancelled) h

/-! ## Cancellation -/

theorem Run.cancelled_iff (h : Run a units s trace s') :
    s'.cancelled = true ↔ s.cancelled = true ∨ .cancel ∈ trace := by
  induction h with
  | nil => simp
  | cons hstep _ ih =>
      rw [ih, hstep.cancelled_eq, Bool.or_eq_true, decide_eq_true_iff, List.mem_cons, or_assoc,
        eq_comm (b := Event.cancel)]

theorem Run.cancelled_of_not_mem (h : Run a units s trace s') (hc : .cancel ∉ trace) :
    s'.cancelled = s.cancelled := by
  rw [Bool.eq_iff_iff, h.cancelled_iff, or_iff_left hc]

/-- Once the token is cancelled, no unit is started. -/
theorem Run.not_start_of_cancelled (h : Run a units s trace s') (hc : s.cancelled = true)
    (i : Fin units.length) : .start i ∉ trace := by
  induction h with
  | nil => exact List.not_mem_nil
  | cons hstep _ ih =>
      rw [List.mem_cons, not_or]
      refine ⟨?_, ih (by rw [hstep.cancelled_eq, hc, Bool.true_or])⟩
      rintro rfl
      cases hstep with
      | start _ hopen => rw [hc] at hopen; cases hopen

/-! ## Completion -/

/-- The stage of a unit is changed by events about it only. -/
theorem Run.stage_eq {j : Fin units.length} (h : Run a units s trace s')
    (hj : ∀ e ∈ trace, e.isAbout j = false) : s'.stage j = s.stage j := by
  induction h with
  | nil => rfl
  | @cons s s1 s' e trace hstep _ ih =>
      rw [ih fun e he => hj e (List.mem_cons_of_mem _ he)]
      have habout := hj e List.mem_cons_self
      have hturn := hstep.turn j
      generalize s.stage j = stage, s1.stage j = stage' at hturn
      cases hturn with
      | other => rfl
      | start | skip | report | fail | count => simp [Event.isAbout] at habout

/-- Nothing happens to a unit that has been dealt with. -/
theorem Run.stage_eq_of_isFinal {j : Fin units.length} (h : Run a units s trace s')
    (hj : (s.stage j).isFinal) : s'.stage j = s.stage j := by
  induction h with
  | nil => rfl
  | @cons s s1 s' e trace hstep _ ih =>
      have hstay : s1.stage j = s.stage j := by
        have hturn := hstep.turn j
        generalize s.stage j = stage, s1.stage j = stage' at hturn hj
        cases hturn with
        | other => rfl
        | start | skip | report | fail | count => simp [Stage.isFinal] at hj
      rw [ih (by rwa [hstay]), hstay]

/-- A unit that is being analysed can be brought to its end. -/
theorem exists_finish_of_running {i : Fin units.length} (hs : s.stage i = .running) :
    ∃ trace s', Run a units s trace s' ∧ (s'.stage i).isFinal ∧ (∀ e ∈ trace, e.isAbout i) ∧
      reportOrder trace = [i].filter fun i => a.finishes (units.get i) := by
  have ha := a.analyzeInto_eq (units.get i) s.sink
  cases hfin : a.finishes (units.get i) with
  | true =>
      rw [hfin] at ha
      refine ⟨[.report i, .count i], _, Run.cons (.report hs ha) (.single (.count ?_)), ?_, ?_, ?_⟩
      · exact State.stage_move_self s i .reported
      · simp [Stage.isFinal]
      · simp [Event.isAbout]
      · simp only [List.filter_cons, hfin]; rfl
  | false =>
      rw [hfin] at ha
      refine ⟨[.fail i], _, Run.single (.fail hs ha), ?_, ?_, ?_⟩
      · simp [Stage.isFinal]
      · simp [Event.isAbout]
      · simp only [List.filter_cons, hfin]; rfl

/-- Any unit can be brought to its end without touching another one or the token. -/
theorem exists_finish (s : State units.length) (i : Fin units.length) :
    ∃ trace s', Run a units s trace s' ∧ (s'.stage i).isFinal ∧ (∀ e ∈ trace, e.isAbout i) ∧
      (s.stage i = .waiting → s.cancelled = false →
        reportOrder trace = [i].filter fun i => a.finishes (units.get i)) := by
  cases hs : s.stage i with
  | waiting =>
      cases hc : s.cancelled with
      | true =>
          refine ⟨[.skip i], _, Run.single (.skip hs hc), ?_, ?_, nofun⟩
          · simp [Stage.isFinal]
          · simp [Event.isAbout]
      | false =>
          obtain ⟨trace, s', hrun, hfinal, habout, hreport⟩ :=
            exists_finish_of_running (a := a) (State.stage_move_self s i .running)
          refine ⟨.start i :: trace, s', Run.cons (.start hs hc) hrun, hfinal, ?_, fun _ _ => hreport⟩
          intro e he
          rcases List.mem_cons.mp he with rfl | he
          · simp [Event.isAbout]
          · exact habout e he
  | running =>
      obtain ⟨trace, s', hrun, hfinal, habout, -⟩ := exists_finish_of_running (a := a) hs
      exact ⟨trace, s', hrun, hfinal, habout, nofun⟩
  | reported =>
      refine ⟨[.count i], _, Run.single (.count hs), ?_, ?_, nofun⟩
      · simp [Stage.isFinal]
      · simp [Event.isAbout]
  | counted | failed | skipped => exact ⟨[], s, Run.nil, by rw [hs]; rfl, nofun, nofun⟩

theorem Event.not_isAbout_of_ne {n : Nat} {i j : Fin n} {e : Event n} (h : e.isAbout i) (hj : j ≠ i) :
    e.isAbout j = false := by
  cases e <;> simp_all [Event.isAbout, eq_comm]

/-- **A run never gets stuck**: from every state any units can be brought to their ends, and units that
wait report in the order in which they are taken. -/
theorem exists_complete (order : List (Fin units.length)) (s : State units.length) :
    ∃ trace s', Run a units s trace s' ∧ (∀ i ∈ order, (s'.stage i).isFinal) ∧ .cancel ∉ trace ∧
      (order.Nodup → (∀ i ∈ order, s.stage i = .waiting) → s.cancelled = false →
        reportOrder trace = order.filter fun i => a.finishes (units.get i)) := by
  induction order generalizing s with
  | nil => exact ⟨[], s, Run.nil, nofun, nofun, fun _ _ _ => rfl⟩
  | cons i order ih =>
      -- Finish the first unit, then the others: neither part touches the units of the other.
      obtain ⟨first, s1, hrun, hfinal, habout, hreport⟩ := exists_finish (a := a) s i
      obtain ⟨rest, s', hrest, hfinals, hcancel, hreports⟩ := ih s1
      have hfirst : .cancel ∉ first := fun hmem => by
        have := habout _ hmem
        simp [Event.isAbout] at this
      refine ⟨first ++ rest, s', hrun.trans hrest, ?_, ?_, ?_⟩
      · intro j hj
        rcases List.mem_cons.mp hj with rfl | hj
        · rw [hrest.stage_eq_of_isFinal hfinal]
          exact hfinal
        · exact hfinals j hj
      · rw [List.mem_append, not_or]
        exact ⟨hfirst, hcancel⟩
      · intro hnodup hwaiting hopen
        obtain ⟨hi, hnodup⟩ := List.nodup_cons.mp hnodup
        have hstill : ∀ j ∈ order, s1.stage j = .waiting := by
          intro j hj
          have hne : j ≠ i := fun h => hi (h ▸ hj)
          rw [hrun.stage_eq fun e he => Event.not_isAbout_of_ne (habout e he) hne]
          exact hwaiting j (List.mem_cons_of_mem i hj)
        have hopen1 : s1.cancelled = false := by rw [hrun.cancelled_of_not_mem hfirst, hopen]
        rw [reportOrder_append, hreport (hwaiting i List.mem_cons_self) hopen,
          hreports hnodup hstill hopen1, ← List.filter_append, List.singleton_append]

/-! ## Failing units -/

/-- The states differ at most in the stage of the unit. -/
structure AgreeOff {n : Nat} (i : Fin n) (s t : State n) : Prop where
  sink : t.sink = s.sink
  count : t.count = s.count
  cancelled : t.cancelled = s.cancelled
  stage : ∀ j, j ≠ i → t.stage j = s.stage j

theorem AgreeOff.refl {n : Nat} (i : Fin n) (s : State n) : AgreeOff i s s :=
  ⟨rfl, rfl, rfl, fun _ _ => rfl⟩

theorem AgreeOff.stage_move {n : Nat} {i : Fin n} {s t : State n} (h : AgreeOff i s t) (k : Fin n)
    (stage : Stage) : ∀ j, j ≠ i → (t.move k stage).stage j = (s.move k stage).stage j := by
  intro j hj
  by_cases hk : j = k
  · subst hk; rw [State.stage_move_self, State.stage_move_self]
  · rw [State.stage_move_of_ne t stage hk, State.stage_move_of_ne s stage hk, h.stage j hj]

section

variable {i : Fin units.length} {e : Event units.length} {t : State units.length}

/-- A step of a unit that fails changes nothing but the stage of that unit. -/
theorem Step.agreeOff_of_isAbout (h : Step a units s e s') (habout : e.isAbout i)
    (hfin : a.finishes (units.get i) = false) (hrep : ¬(s.stage i).isReported) (hst : AgreeOff i s t) :
    AgreeOff i s' t := by
  have hstage : ∀ j, j ≠ i → t.stage j = s'.stage j := by
    intro j hj
    rw [(Run.single h).stage_eq fun e' he' => ?_, hst.stage j hj]
    rw [List.mem_singleton.mp he']
    exact Event.not_isAbout_of_ne habout hj
  have hcancel : s'.cancelled = s.cancelled := by
    refine (Run.single h).cancelled_of_not_mem fun hmem => ?_
    rw [← List.mem_singleton.mp hmem] at habout
    cases habout
  -- It neither reports, for it fails, nor is it counted, for it has not reported.
  have hquiet : e.reported? = none ∧ s'.count = s.count := by
    cases h with
    | @report j sink hr ha =>
        obtain rfl : j = i := by simpa [Event.isAbout] using habout
        rw [(a.analyzeInto_eq_iff.mp ha).1] at hfin
        cases hfin
    | @count j hr =>
        obtain rfl : j = i := by simpa [Event.isAbout] using habout
        exact absurd (by rw [hr]; rfl) hrep
    | start | skip | fail | cancel => exact ⟨rfl, rfl⟩
  refine ⟨?_, ?_, hst.cancelled.trans hcancel.symm, hstage⟩
  · have hsink := h.sink
    rw [reportOrder_singleton, hquiet.1, Option.toList_none, List.flatMap_nil, List.append_nil] at hsink
    rw [hst.sink]
    exact congrArg Sink.mk hsink.symm
  · rw [hst.count, hquiet.2]

/-- A step of another unit, or a cancellation, can be made all the same. -/
theorem Step.exists_agreeOff (h : Step a units s e s') (habout : e.isAbout i = false)
    (hst : AgreeOff i s t) : ∃ t', Step a units t e t' ∧ AgreeOff i s' t' := by
  have hne : ∀ {j : Fin units.length}, decide (j = i) = false → j ≠ i := of_decide_eq_false
  cases h with
  | @start j hw hc =>
      exact ⟨_, .start ((hst.stage j (hne habout)).trans hw) (hst.cancelled.trans hc),
        hst.sink, hst.count, hst.cancelled, hst.stage_move j _⟩
  | @skip j hw hc =>
      exact ⟨_, .skip ((hst.stage j (hne habout)).trans hw) (hst.cancelled.trans hc),
        hst.sink, hst.count, hst.cancelled, hst.stage_move j _⟩
  | @report j sink hr ha =>
      exact ⟨_, .report ((hst.stage j (hne habout)).trans hr) (by rw [hst.sink, ha]),
        rfl, hst.count, hst.cancelled, hst.stage_move j _⟩
  | @fail j sink hr ha =>
      exact ⟨_, .fail ((hst.stage j (hne habout)).trans hr) (by rw [hst.sink, ha]),
        rfl, hst.count, hst.cancelled, hst.stage_move j _⟩
  | @count j hr =>
      exact ⟨_, .count ((hst.stage j (hne habout)).trans hr),
        hst.sink, congrArg (· + 1) hst.count, hst.cancelled, hst.stage_move j _⟩
  | cancel => exact ⟨_, .cancel, hst.sink, hst.count, rfl, hst.stage⟩

/-- **A unit that fails changes nothing for the others**: without its events the run goes on as before,
to a state that differs at most in the stage of that unit. -/
theorem exists_run_without (h : Run a units s trace s') (hfin : a.finishes (units.get i) = false)
    (hrep : ¬(s.stage i).isReported) (hst : AgreeOff i s t) :
    ∃ t', Run a units t (trace.filter fun e => !e.isAbout i) t' ∧ AgreeOff i s' t' := by
  induction h generalizing t with
  | nil => exact ⟨t, Run.nil, hst⟩
  | @cons s s1 s' e trace hstep _ ih =>
      have hrep1 : ¬(s1.stage i).isReported := by
        rw [(hstep.turn i).isReported_iff, not_or]
        refine ⟨hrep, ?_⟩
        rintro rfl
        cases hstep with
        | report hr ha =>
            rw [(a.analyzeInto_eq_iff.mp ha).1] at hfin
            cases hfin
      cases habout : e.isAbout i with
      | true =>
          rw [List.filter_cons_of_neg (by simp [habout])]
          exact ih hrep1 (hstep.agreeOff_of_isAbout habout hfin hrep hst)
      | false =>
          rw [List.filter_cons_of_pos (by simp [habout])]
          obtain ⟨t1, hstep', hst1⟩ := hstep.exists_agreeOff habout hst
          obtain ⟨t', hrun, hst'⟩ := ih hrep1 hst1
          exact ⟨t', Run.cons hstep' hrun, hst'⟩

end

end Workers

end LayerLint
