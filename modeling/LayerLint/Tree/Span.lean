import LayerLint.Bounds

/-!
# `Tree.Span` — where a node stands, and faults of 64-bit arithmetic

Lines and columns are host-supplied 64-bit words. The two sums computed from them may exceed the
word; that is a fault, which ends the analysis of the unit it arises in.

## Contents
- **Faults.** `Fault`, the ways in which a check can fail.
- **Spans.** `Span`, `Span.lines`, `Span.lineCount`.
-/

namespace LayerLint

/-! ## Faults -/

/-- Why a check did not finish. -/
inductive Fault where
  /-- A span covers more lines than a 64-bit word can count. -/
  | lineCountOverflow
  /-- A column lies more than a 64-bit word behind the start of the text. -/
  | offsetOverflow
  /-- A node was dispatched to a position where no rule stands. -/
  | missingRule
  /-- A rule gave up for a reason of its own. -/
  | raised (reason : String)
  deriving Repr, DecidableEq

/-! ## Spans -/

/-- A range of lines and columns, both counted from 1; the end column is just past the last
character. -/
structure Span where
  startLine : UInt64 := 0
  startColumn : UInt64 := 0
  endLine : UInt64 := 0
  endColumn : UInt64 := 0
  deriving Repr, DecidableEq, Inhabited

namespace Span

/-- The span of whole lines `start` to `stop`. -/
def lines (start stop : UInt64) : Span := ⟨start, 1, stop, 1⟩

/-- The number of lines covered, both ends included; a span that ends before it starts covers one. -/
def lineCount (s : Span) : Except Fault Nat :=
  let n := s.endLine.toNat - s.startLine.toNat + 1
  if n < wordBound then .ok n else .error .lineCountOverflow

/-- Lines fail to be counted only from line 0 to the last line a word can name. -/
theorem lineCount_eq_error_iff {s : Span} {e : Fault} :
    s.lineCount = .error e ↔
      s.startLine = 0 ∧ s.endLine = 0xFFFFFFFFFFFFFFFF ∧ e = .lineCountOverflow := by
  have hs := s.startLine.toNat_lt
  have he := s.endLine.toNat_lt
  have e0 : s.startLine = 0 ↔ s.startLine.toNat = 0 := by
    rw [← UInt64.toNat_inj]; rfl
  have em : s.endLine = 0xFFFFFFFFFFFFFFFF ↔ s.endLine.toNat = 2 ^ 64 - 1 := by
    rw [← UInt64.toNat_inj]; rfl
  rw [e0, em]
  by_cases h : s.endLine.toNat - s.startLine.toNat + 1 < wordBound
  · simp only [lineCount, h, if_true, reduceCtorEq, false_iff]
    simp only [wordBound] at h
    omega
  · simp only [lineCount, h, if_false, Except.error.injEq]
    simp only [wordBound] at h
    constructor
    · rintro rfl
      exact ⟨by omega, by omega, rfl⟩
    · rintro ⟨_, _, rfl⟩
      rfl

end Span

end LayerLint
