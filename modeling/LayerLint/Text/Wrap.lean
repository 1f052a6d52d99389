import LayerLint.Text.Letter
import LayerLint.Text.LineBreak
import LayerLint.Text.Search
import LayerLint.Text.Terminal

/-!
# `Text.Wrap` — breaking a text into lines of limited width

Lines are filled one after the other: a word goes on the line if it still fits there. A word ends
where a line may break, or with a hyphen between letters or digits; a word wider than a whole line is
cut. Sequences for the terminal take no columns and stay with the character after them.

## Contents
- **Pieces.** `Cell`, `cells`; `wordPieces`: the stretches between the places where a line may break.
- **Words.** `Word`, `Word.ofPiece`, `Word.split` at hyphens, `Word.cut` at the width of a line.
- **Lines.** `fillLines`, `wrap`.
- **Nothing is lost.** `flatten_gather`, `flatten_hyphenParts`, `flatten_cutFrom`: the parts of a text
  concatenate to the text; `flatten_fillLines`: the words of its lines are its words.
-/

namespace LayerLint.Text

/-! ## Pieces -/

/-- A character that is shown, with the sequences before it; the last cell of a text may lack the
character. -/
structure Cell where
  text : List Char
  shown : Option Char
  deriving Repr, DecidableEq

/-- The cells of a text. -/
def cellsFrom (m : Mode) : List Char → List Cell
  | [] => []
  | c :: rest =>
      let more := cellsFrom (m.next c) rest
      if m.shows c then ⟨[c], some c⟩ :: more
      else
        match more with
        | [] => [⟨[c], none⟩]
        | cell :: others => { cell with text := c :: cell.text } :: others

/-- The cells of a whole text. -/
def cells (s : List Char) : List Cell := cellsFrom .plain s

/-- A hyphen, seen or not, after which only the rule for hyphens breaks a line. -/
def isHyphen (c : Char) : Bool := c == '-' || c.toNat == 0xAD

/-- Drops the marks after hyphens; `after` is the character before the first one. -/
def dropHyphenMarks (after : Option Char) : List (Char × Bool) → List Bool
  | [] => []
  | (c, mark) :: rest => (mark && !after.any isHyphen) :: dropHyphenMarks (some c) rest

/-- Drops the last mark that is set. -/
def dropLastMark : List Bool → List Bool
  | [] => []
  | mark :: rest => if rest.any id then mark :: dropLastMark rest else false :: rest

/-- For each character, whether a word starts with it and not with the text. A text that ends with a
hyphen has one start less. -/
def wordMarks (s : List Char) : List Bool :=
  let marks := dropHyphenMarks none (s.zip (breakMarks s))
  if s.getLast?.any isHyphen then dropLastMark marks else marks

/-- Joins texts to those before them, unless they are marked. -/
def gather : List (List Char × Bool) → List (List Char)
  | [] => []
  | (text, _) :: rest =>
      match gather rest with
      | [] => [text]
      | piece :: pieces =>
          if rest.head?.any (·.2) then text :: piece :: pieces else (text ++ piece) :: pieces

/-- Nothing is lost when texts are joined. -/
@[simp] theorem flatten_gather (xs : List (List Char × Bool)) :
    (gather xs).flatten = (xs.map (·.1)).flatten := by
  induction xs with
  | nil => rfl
  | cons x xs ih =>
      simp only [gather, List.map_cons, List.flatten_cons, ← ih]
      split
      · simp_all
      · split <;> simp_all

/-- The stretches of a text between the places where a word starts. -/
def wordPieces (s : List Char) : List (List Char) :=
  let cs := cells s
  let marks := wordMarks (cs.filterMap (·.shown))
  gather ((cs.map (·.text)).zip (marks ++ [false]))

/-! ## Words -/

/-- A stretch without a place to break, and the blanks that follow it. -/
structure Word where
  text : List Char
  blanks : List Char := []
  deriving Repr, DecidableEq

/-- A line may break between a hyphen and `next` when `before` stands before the hyphen. -/
def breaksAtHyphen (before next : Option Char) : Bool :=
  before.any isLetterOrDigit && next.any isLetterOrDigit

/-- The parts of a text that end with a hyphen between letters or digits; `before` is the character
before the text. -/
def hyphenParts (before : Option Char) : List Char → List (List Char)
  | [] => [[]]
  | c :: rest =>
      let more := hyphenParts (some c) rest
      if c = '-' && breaksAtHyphen before rest.head? then [c] :: more
      else
        match more with
        | [] => [[c]]
        | part :: parts => (c :: part) :: parts

/-- Nothing is lost when a text is split at hyphens. -/
@[simp] theorem flatten_hyphenParts (before : Option Char) (s : List Char) :
    (hyphenParts before s).flatten = s := by
  induction s generalizing before with
  | nil => rfl
  | cons c s ih =>
      have h := ih (some c)
      simp only [hyphenParts]
      split
      · simp [h]
      · split
        · rename_i e
          rw [e] at h
          simp [← h]
        · rename_i e
          rw [e] at h
          simp [← h]

/-- Cuts a text before each character that would make a part wider than `limit`; `used` columns of
the first part are taken. -/
def cutFrom (limit : Nat) (m : Mode) (used : Nat) : List Char → List (List Char)
  | [] => [[]]
  | c :: rest =>
      let w := widthIn m c
      let isCut := m.shows c && 0 < used && limit < used + w
      match cutFrom limit (m.next c) (if isCut then w else used + w) rest with
      | [] => [[c]]
      | part :: parts => if isCut then [] :: (c :: part) :: parts else (c :: part) :: parts

/-- Nothing is lost when a text is cut. -/
@[simp] theorem flatten_cutFrom (limit : Nat) (m : Mode) (used : Nat) (s : List Char) :
    (cutFrom limit m used s).flatten = s := by
  induction s generalizing m used with
  | nil => rfl
  | cons c s ih =>
      simp only [cutFrom]
      split
      · rename_i e
        have h := ih (m.next c)
          (if (m.shows c && decide (0 < used) && decide (limit < used + widthIn m c)) = true
            then widthIn m c else used + widthIn m c)
        rw [e] at h
        simp [← h]
      · rename_i e
        have h := ih (m.next c)
          (if (m.shows c && decide (0 < used) && decide (limit < used + widthIn m c)) = true
            then widthIn m c else used + widthIn m c)
        rw [e] at h
        split <;> simp [← h]

namespace Word

/-- The word in a stretch of text. -/
def ofPiece (piece : List Char) : Word :=
  let back := piece.reverse
  ⟨(back.dropWhile (· == ' ')).reverse, back.takeWhile (· == ' ')⟩

/-- The words for parts of a text; the blanks stay with the last one. -/
def ofParts (blanks : List Char) : List (List Char) → List Word
  | [] => []
  | [part] => [⟨part, blanks⟩]
  | part :: parts => ⟨part, []⟩ :: ofParts blanks parts

/-- Splits a word after the hyphens at which a line may break. -/
def split (w : Word) : List Word := ofParts w.blanks (hyphenParts none w.text)

/-- Cuts a word that is wider than a line. -/
def cut (limit : Nat) (w : Word) : List Word :=
  if columns w.text ≤ limit then [w] else ofParts w.blanks (cutFrom limit .plain 0 w.text)

end Word

/-- The words of a line, none of them wider than `limit`. -/
def words (limit : Nat) (line : List Char) : List Word :=
  (((wordPieces line).map Word.ofPiece).flatMap Word.split).flatMap (Word.cut limit)

/-! ## Lines -/

/-- Fills lines of at most `limit` columns, the first of which already holds the words `line` over
`used` columns. -/
def fillLines (limit : Nat) (line : List Word) (used : Nat) : List Word → List (List Word)
  | [] => [line]
  | w :: ws =>
      let w' := columns w.text
      if line ≠ [] ∧ limit < used + w' then
        line :: fillLines limit [w] (w' + w.blanks.length) ws
      else fillLines limit (line ++ [w]) (used + w' + w.blanks.length) ws

/-- The text of a line; the blanks after its last word are dropped. -/
def lineText : List Word → List Char
  | [] => []
  | [w] => w.text
  | w :: ws => w.text ++ w.blanks ++ lineText ws

/-- The words of the lines are the words given. -/
theorem flatten_fillLines (limit : Nat) (line : List Word) (used : Nat) (ws : List Word) :
    (fillLines limit line used ws).flatten = line ++ ws := by
  induction ws generalizing line used with
  | nil => simp [fillLines]
  | cons w ws ih =>
      simp only [fillLines]
      split <;> simp [ih]

/-- The lines of a text, each at most `limit` columns wide and without blanks at its end. The first
line of a paragraph holds an empty word to begin with. -/
def wrap (limit : Nat) (s : List Char) : List (List Char) :=
  (pieces (· == '\n') s).flatMap fun line =>
    (fillLines limit [⟨[], []⟩] 0 (words limit line)).map lineText

end LayerLint.Text
