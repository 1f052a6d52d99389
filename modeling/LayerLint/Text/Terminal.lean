import LayerLint.Bounds
import LayerLint.Text.Width

/-!
# `Text.Terminal` — what a terminal shows of a text

The escape character starts a sequence that a terminal obeys and does not show. A sequence is the
escape character with one more character, a control sequence, or a command with a text.

## Contents
- **Scanning.** `Mode`, `Mode.next`, `Mode.shows`: one character at a time.
- **Columns.** `columnsFrom`, `columns` of a text, sequences aside; `columnsFrom_append` for two texts in a row.
-/

namespace LayerLint.Text

/-! ## Scanning -/

/-- Where a scan stands. -/
inductive Mode where
  /-- Outside of sequences. -/
  | plain
  /-- After the escape character. -/
  | escape
  /-- In a control sequence, which ends with a character from `@` to `~`. -/
  | control
  /-- In a command, which ends with a bell, or with an escape character and a backslash; told
  whether an escape character stands right before. -/
  | command (escaped : Bool)
  deriving Repr, DecidableEq

namespace Mode

/-- The escape character. -/
def escapeChar : Char := '\x1b'

/-- The bell character. -/
def bellChar : Char := '\x07'

/-- Where a scan stands after a character. -/
def next : Mode → Char → Mode
  | plain, c => if c = escapeChar then escape else plain
  | escape, c => if c = '[' then control else if c = ']' then command false else plain
  | control, c => if '@' ≤ c ∧ c ≤ '~' then plain else control
  | command escaped, c =>
      if c = bellChar ∨ (c = '\\' ∧ escaped) then plain else command (c = escapeChar)

/-- The character belongs to no sequence. -/
def shows : Mode → Char → Bool
  | plain, c => c != escapeChar
  | _, _ => false

end Mode

/-! ## Columns -/

/-- The columns a character takes when a scan stands before it. -/
def widthIn (m : Mode) (c : Char) : Nat := if m.shows c then width .later c else 0

/-- The columns a text takes from a mode on. -/
def columnsFrom (m : Mode) : List Char → Nat
  | [] => 0
  | c :: rest => widthIn m c + columnsFrom (m.next c) rest

/-- The columns a text takes. -/
def columns (s : List Char) : Nat := columnsFrom .plain s

@[simp] theorem columns_nil : columns [] = 0 := rfl

/-- Where a scan stands after a text. -/
def Mode.after (m : Mode) (s : List Char) : Mode := s.foldl Mode.next m

/-- The columns of two texts in a row: the second is read where the first leaves off. -/
theorem columnsFrom_append (m : Mode) (a b : List Char) :
    columnsFrom m (a ++ b) = columnsFrom m a + columnsFrom (m.after a) b := by
  induction a generalizing m with
  | nil => simp [columnsFrom, Mode.after]
  | cons c a ih => simp [columnsFrom, Mode.after, ih, Nat.add_assoc]

end LayerLint.Text
