import LayerLint.Text.Line

/-!
# `Report.Window` — the part of a source around a place

A window holds the rows that a label touches, one row before them and one after. A row ends with a
line feed, with a carriage return, or with both; inside the window only line feeds end lines, so a lone
carriage return is shown as part of its line.

## Contents
- **Labels.** `Label`: a stretch of a text, in bytes.
- **Rows.** `rowTexts`, which concatenate to the text, and `Row`.
- **Windows.** `windowRows`, and `Window.lines`: the lines to show, with their numbers.
- **Places.** `lineAndColumn` of a byte position.
-/

namespace LayerLint

/-! ## Labels -/

/-- A stretch of a text, in bytes, and what to say about it. -/
structure Label where
  offset : Nat
  length : Nat
  text : String
  deriving Repr, DecidableEq

/-- The position after a label. -/
def Label.stop (l : Label) : Nat := l.offset + l.length

/-- The position of the last byte of a label, or of the byte before it if it is empty. -/
def Label.last (l : Label) : Nat := l.stop - 1

namespace Window

/-! ## Rows -/

/-- The rows of a text, each with what ends it; the empty text has none. -/
def rowTexts : List Char → List (List Char)
  | [] => []
  | '\r' :: '\n' :: rest => ['\r', '\n'] :: rowTexts rest
  | c :: rest =>
      if c = '\n' || c = '\r' then [c] :: rowTexts rest
      else
        match rowTexts rest with
        | [] => [[c]]
        | row :: rows => (c :: row) :: rows

/-- Nothing is lost: the rows concatenate to the text. -/
@[simp] theorem flatten_rowTexts (s : List Char) : (rowTexts s).flatten = s := by
  fun_induction rowTexts s with
  | case1 => rfl
  | case2 rest ih => simp [ih]
  | case3 c rest _ _ ih => simp [ih]
  | case4 c rest _ _ h ih =>
      rw [h] at ih
      simp [← ih]
  | case5 c rest _ _ row rows h ih =>
      rw [h] at ih
      simp [← ih]

/-- A row of a text. -/
structure Row where
  /-- The byte position at which the row starts. -/
  offset : Nat
  /-- The bytes of the row, without what ends it. -/
  content : Nat
  /-- The row with what ends it. -/
  text : List Char
  deriving Repr, DecidableEq

namespace Row

/-- The position after a row. -/
def stop (r : Row) : Nat := r.offset + Text.byteLength r.text

/-- Something ends the row; only the last row of a text may lack it. -/
def isEnded (r : Row) : Bool := r.content < Text.byteLength r.text

/-- The position belongs to what ends the row, or lies beyond the row. -/
def endsBy (r : Row) (position : Nat) : Bool := r.isEnded && r.offset + r.content ≤ position

end Row

/-- A row without what ends it. -/
def withoutEnd (row : List Char) : List Char := row.filter fun c => c != '\n' && c != '\r'

/-- The rows of a text that starts at a position. -/
def rowsFrom (offset : Nat) : List (List Char) → List Row
  | [] => []
  | row :: rest =>
      ⟨offset, Text.byteLength (withoutEnd row), row⟩ :: rowsFrom (offset + Text.byteLength row) rest

/-- The rows of a text. -/
def rows (text : List Char) : List Row := rowsFrom 0 (rowTexts text)

/-- How many rows end at or before a position. -/
def rowsBefore (rows : List Row) (position : Nat) : Nat :=
  (rows.takeWhile fun r => r.isEnded && r.stop ≤ position).length

/-! ## Windows -/

/-- The first row to show: the one before the row on which the label starts. -/
def firstRow (rows : List Row) (label : Label) : Nat := rowsBefore rows label.offset - 1

/-- The last row to show: the one after the row on which the label ends. A label whose last byte ends
a row reaches into the next one. -/
def lastRow (rows : List Row) (label : Label) : Nat :=
  let touched := rowsBefore rows label.last
  match rows[touched]? with
  | some r => if r.endsBy label.last then touched + 2 else touched + 1
  | none => touched + 1

/-- The rows to show. -/
def windowRows (rows : List Row) (label : Label) : List Row :=
  (rows.take (lastRow rows label + 1)).drop (firstRow rows label)

/-- A line to show. -/
structure Line where
  number : Nat
  /-- The byte position at which the line starts. -/
  offset : Nat
  /-- The bytes of the line with its line break. -/
  length : Nat
  /-- The line without its line break. -/
  content : List Char
  deriving Repr, DecidableEq

/-- The position after a line. -/
def Line.stop (l : Line) : Nat := l.offset + l.length

/-- A line without its line break. -/
def withoutBreak (line : List Char) : List Char :=
  match line.reverse with
  | '\n' :: '\r' :: rest => rest.reverse
  | '\n' :: rest => rest.reverse
  | _ => line

/-- The lines of a text that follows `number` lines and starts at a position. Lines are counted where
they end, and a carriage return that ends the text does not count. -/
def numbered (number offset : Nat) : List (List Char) → List Line
  | [] => []
  | line :: rest =>
      let length := Text.byteLength line
      let counts := !rest.isEmpty || line.getLast? != some '\r'
      ⟨if counts then number + 1 else number, offset, length, withoutBreak line⟩ ::
        numbered (number + 1) (offset + length) rest

/-- The lines to show of a text. -/
def lines (text : String) (label : Label) : List Line :=
  let rows := rows text.toList
  let shown := windowRows rows label
  let offset := (shown.head?.map Row.offset).getD 0
  numbered (firstRow rows label) offset (Text.lines (shown.flatMap Row.text))

/-! ## Places -/

/-- The label does not lie within the text. -/
def isBeyond (text : String) (label : Label) : Bool := Text.byteLength text.toList < label.last

/-- The label starts beyond the text. -/
def startsBeyond (text : String) (label : Label) : Bool :=
  Text.byteLength text.toList < label.offset

/-- Row and byte column of a position, both counted from 1; what ends a row has the column after the
row. -/
def lineAndColumn (text : String) (position : Nat) : Nat × Nat :=
  let rows := rows text.toList
  let before := rowsBefore rows position
  match rows[before]? with
  | some r => (before + 1, min (position - r.offset) r.content + 1)
  | none => (before + 1, 1)

end Window

end LayerLint
