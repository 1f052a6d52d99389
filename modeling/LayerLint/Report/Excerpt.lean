import LayerLint.Diagnostic
import LayerLint.Report.Window
import LayerLint.Text.Wrap

/-!
# `Report.Excerpt` — findings beside the source they point at

An excerpt shows the lines a finding points at, with one line of context on each side, and a label
under the place or beside the lines. Positions count bytes; columns count what a terminal shows.

## Contents
- **Columns.** `columnOf`: the column of a byte position on a line.
- **Drawing.** `underline` for a label within one line, `gutter` for one over several lines.
- **Excerpts.** `Excerpt`, `Excerpt.render`, and `Excerpt.heading` for the message above it. An empty
  label right after the end of a text cannot be placed: its excerpt breaks off.
-/

namespace LayerLint

open Window (Line)

/-- What is drawn for a finding. -/
structure Excerpt where
  lines : List String
  /-- The start of the line at which the drawing breaks off, if it does. -/
  brokenOff : Option String := none
  deriving Repr, DecidableEq

namespace Excerpt

/-! ## Columns -/

/-- Tabs end at multiples of this column. -/
def tabWidth : Nat := 4

/-- The columns each character of a line takes, from the given column on. Nothing from an escape
character to the next `m` takes columns; `hidden` tells that the line starts there. -/
def charWidths (hidden : Bool) (column : Nat) : List Char → List Nat
  | [] => []
  | c :: rest =>
      if hidden then 0 :: charWidths (c != 'm') column rest
      else if c = Text.Mode.escapeChar then 0 :: charWidths true column rest
      else
        let w := if c = '\t' then tabWidth - column % tabWidth else Text.width .earlier c
        w :: charWidths false (column + w) rest

/-- The columns each character of a line takes. -/
def lineWidths (line : List Char) : List Nat := charWidths false 0 line

/-- A line as shown: tabs are blanks. -/
def shown (line : List Char) : List Char :=
  (line.zip (lineWidths line)).flatMap fun (c, w) => if c = '\t' then List.replicate w ' ' else [c]

/-- The number of characters that end at or before the byte position `n`; with `whole`, one that only
starts before it counts too. -/
def charsBefore (whole : Bool) (n : Nat) : List Char → Nat
  | [] => 0
  | c :: rest =>
      if c.utf8Size ≤ n then charsBefore whole (n - c.utf8Size) rest + 1
      else if whole && 0 < n then 1
      else 0

/-- The column of a byte position on a line. A position inside a character is taken to the end of the
character if `whole`, else to its start; positions in the line break are one column past the line. -/
def columnOf (whole : Bool) (line : Line) (position : Nat) : Nat :=
  let n := position - line.offset
  let before := line.content.take (charsBefore whole n line.content)
  total (lineWidths before) + (if Text.byteLength line.content < n then 1 else 0)

/-! ## Drawing -/

/-- A character some number of times. -/
def times (n : Nat) (c : Char) : String := String.ofList (List.replicate n c)

/-- The label lies on this line alone. -/
def isWithin (label : Label) (line : Line) : Bool :=
  line.offset ≤ label.offset && label.stop ≤ line.stop

/-- The position after the label when it is drawn; an empty one takes one place. -/
def drawnStop (label : Label) : Nat := label.offset + max label.length 1

/-- The label starts on this line. -/
def startsOn (label : Label) (line : Line) : Bool :=
  line.offset ≤ label.offset && label.offset < line.stop

/-- The label, as drawn, ends on this line. -/
def endsOn (label : Label) (line : Line) : Bool :=
  line.offset < drawnStop label && drawnStop label ≤ line.stop

/-- The label can be seen on this line. -/
def touches (label : Label) (line : Line) : Bool :=
  startsOn label line || (label.offset < line.offset && line.stop < drawnStop label) ||
    endsOn label line

/-- The label can be seen on this line and on another. -/
def passes (label : Label) (line : Line) : Bool :=
  touches label line && !(startsOn label line && endsOn label line)

/-- What stands between the line number and the line when the label spans several lines. -/
def gutter (label : Label) (line : Line) : String :=
  if passes label line then
    if line.offset ≤ label.offset then "╭─▶ "
    else if line.offset ≤ label.stop && label.stop ≤ line.stop then "├─▶ "
    else if line.stop < label.stop then "│   "
    else "    "
  else "    "

/-- The bar under a label within one line, and the text that hangs from its middle. -/
def underline (label : Label) (line : Line) : List String :=
  let start := columnOf false line label.offset
  let stop := if label.length = 0 then start + 1 else max (columnOf true line label.stop) (start + 1)
  let middle := (start + stop) / 2
  let hook := if label.length = 0 then "▲" else "┬"
  [times start ' ' ++ times (middle - start) '─' ++ hook ++ times (stop - middle - 1) '─',
   times middle ' ' ++ "╰── " ++ label.text]

/-- The text of a number with blanks before it. -/
def padded (width n : Nat) : String := times (width - (toString n).length) ' ' ++ toString n

/-- One line of the source and what is drawn below it. -/
def drawLine (label : Label) (spansLines : Bool) (numberWidth : Nat) (line : Line) :
    List String :=
  let below := " " ++ times numberWidth ' ' ++ " · "
  let beside := if spansLines then gutter label line else ""
  let source :=
    " " ++ padded numberWidth line.number ++ " │ " ++ beside ++ String.ofList (shown line.content)
  let marks :=
    if !touches label line then []
    else if isWithin label line then
      (underline label line).map (below ++ ·)
    else if label.stop ≤ line.stop && line.offset ≤ label.stop && label.offset < line.offset then
      [below ++ "╰──── " ++ label.text]
    else []
  source :: marks

/-! ## Excerpts -/

/-- An excerpt of a text. -/
def draw (file text : String) (label : Label) : Excerpt :=
  let lines := Window.lines text label
  let numberWidth := (toString ((lines.getLast?.map (·.number)).getD 0)).length
  let margin := times (numberWidth + 2) ' '
  if Window.startsBeyond text label then { lines := [], brokenOff := some (margin ++ "╭─") }
  else
    let spansLines := lines.any fun l => !isWithin label l && passes label l
    let (line, column) := Window.lineAndColumn text label.offset
    { lines :=
        [margin ++ "╭─[" ++ file ++ ":" ++ toString line ++ ":" ++ toString column ++ "]"] ++
          lines.flatMap (drawLine label spansLines numberWidth) ++
          [margin ++ "╰────"] }

/-- What is said about a label that lies beyond the text. -/
def beyond (label : Label) : String :=
  "  [Failed to read contents for label `" ++ label.text ++ "` (offset: " ++ toString label.offset ++
    ", length: " ++ toString label.length ++ "): OutOfBounds]"

/-- The columns a line of a message may take. -/
def messageWidth : Nat := 74

/-- The message of a finding, wrapped. -/
def heading (d : Diagnostic) : List String :=
  match (Text.wrap messageWidth d.headline.toList).map String.ofList with
  | [] => []
  | first :: rest => ("  × " ++ first) :: rest.map ("  │ " ++ ·)

/-- Lines above an excerpt. -/
def below (above : List String) (e : Excerpt) : Excerpt := { e with lines := above ++ e.lines }

/-- A finding with the source it points at, if there is one. -/
def render (source : Option String) (d : Diagnostic) : Excerpt :=
  let label : Label := ⟨d.location.offset, d.location.length, d.rule⟩
  let drawing : Excerpt :=
    match source with
    | none => { lines := [] }
    | some text =>
        if Window.isBeyond text label then { lines := [beyond label] }
        else draw d.location.file text label
  drawing.below (heading d)

end Excerpt

end LayerLint
