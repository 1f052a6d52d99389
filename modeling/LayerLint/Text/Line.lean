/-!
# `Text.Line` — lines and byte offsets

Positions count UTF-8 bytes. A line ends with `'\n'`, which belongs to the line it ends, so the lines
of a text concatenate to the text; whatever stands before the `'\n'`, a `'\r'` included, is content.

## Contents
- **Bytes.** `byteLength`, additive over concatenation.
- **Lines.** `lines` and `lineStart?`, the byte offset at which a line begins, with its equations along a
  text.
-/

namespace LayerLint.Text

/-! ## Bytes -/

/-- The number of UTF-8 bytes of a text. -/
def byteLength (s : List Char) : Nat := s.foldl (fun n c => n + c.utf8Size) 0

theorem foldl_utf8Size (s : List Char) (n : Nat) :
    s.foldl (fun n c => n + c.utf8Size) n = n + byteLength s := by
  induction s generalizing n with
  | nil => simp [byteLength]
  | cons c s ih =>
      rw [byteLength, List.foldl_cons, List.foldl_cons, ih, ih (0 + c.utf8Size)]
      omega

@[simp] theorem byteLength_nil : byteLength [] = 0 := rfl

@[simp] theorem byteLength_cons (c : Char) (s : List Char) :
    byteLength (c :: s) = c.utf8Size + byteLength s := by
  rw [byteLength, List.foldl_cons, foldl_utf8Size]
  omega

@[simp] theorem byteLength_append (a b : List Char) :
    byteLength (a ++ b) = byteLength a + byteLength b := by
  induction a with
  | nil => simp
  | cons c a ih => simp [ih, Nat.add_assoc]

/-! ## Lines -/

/-- The lines of a text, each with its terminator; the empty text has none. -/
def lines : List Char → List (List Char)
  | [] => []
  | c :: rest =>
      if c = '\n' then [c] :: lines rest
      else
        match lines rest with
        | [] => [[c]]
        | l :: ls => (c :: l) :: ls

/-- Nothing is lost: the lines concatenate to the text. -/
@[simp] theorem flatten_lines (s : List Char) : (lines s).flatten = s := by
  induction s with
  | nil => rfl
  | cons c s ih =>
      simp only [lines]
      split
      · simp [ih]
      · rcases h : lines s with _ | ⟨l, ls⟩
        · rw [h] at ih
          simp [← ih]
        · rw [h] at ih
          simp only [List.flatten_cons] at ih
          simp [← ih]

/-- The byte offset at which the line with the given index (from 0) begins, if there is such a line;
`start` is the offset of the first of `ls`. -/
def lineStart? (start : Nat) : List (List Char) → Nat → Option Nat
  | [], _ => none
  | _ :: _, 0 => some start
  | l :: ls, i + 1 => lineStart? (start + byteLength l) ls i

theorem lineStart?_first {s : List Char} (h : s ≠ []) (k : Nat) : lineStart? k (lines s) 0 = some k := by
  cases s with
  | nil => exact absurd rfl h
  | cons c s =>
      rw [lines]
      split
      · rfl
      · split <;> rfl

/-- Past the end of a line the next one is the first of what is left. -/
theorem lineStart?_feed (k i : Nat) (s : List Char) :
    lineStart? k (lines ('\n' :: s)) (i + 1) = lineStart? (k + 1) (lines s) i := by
  rw [lines, if_pos rfl, lineStart?, byteLength_cons, byteLength_nil]
  rfl

/-- Any other character belongs to the first line. -/
theorem lineStart?_cons {c : Char} (hc : c ≠ '\n') (k i : Nat) (s : List Char) :
    lineStart? k (lines (c :: s)) (i + 1) = lineStart? (k + c.utf8Size) (lines s) (i + 1) := by
  rw [lines, if_neg hc]
  cases lines s with
  | nil => simp only [lineStart?]
  | cons l ls =>
      show lineStart? (k + byteLength (c :: l)) ls i = lineStart? (k + c.utf8Size + byteLength l) ls i
      rw [byteLength_cons, Nat.add_assoc]

end LayerLint.Text
