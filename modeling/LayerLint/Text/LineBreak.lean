import LayerLint.Text.LineClass

/-!
# `Text.LineBreak` — where a line may break

Whether a line may break before a character depends on the class of the character, on what stands
before it (the last character that is neither a blank nor a mark, and whether blanks follow it), and
for quotation marks and Brahmic syllables on what comes next. Circles that stand for missing
consonants go in pairs, and little stays with a pair. The rules are tried in order, and the first one
that applies decides.

## Contents
- **What stands before.** `LineState`, `LineState.advance`.
- **What comes next.** `nextClass?`.
- **Rules.** `stickingPairs`: neighbours that stay together; `LineState.mayBreak`.
- **Texts.** `breakMarks`: for each character of a text, whether a line may break before it.
-/

namespace LayerLint.Text

/-! ## What stands before -/

/-- The class ends a line. -/
def LineClass.endsLine : LineClass → Bool
  | mandatory | carriageReturn | lineFeed | nextLine => true
  | _ => false

/-- The class attaches to the character before it. -/
def LineClass.attaches : LineClass → Bool
  | mark | joiner => true
  | _ => false

/-- The class is one of opening brackets. -/
def LineClass.isOpening : LineClass → Bool
  | opening | wideOpening => true
  | _ => false

/-- The class is one of quotation marks. -/
def LineClass.isQuote : LineClass → Bool
  | quotation | openingQuote | closingQuote => true
  | _ => false

/-- The class can begin a Brahmic syllable. -/
def LineClass.startsSyllable : LineClass → Bool
  | syllableLetter | syllableStart | dottedCircle => true
  | _ => false

/-- The class can follow a sign that joins two consonants. -/
def LineClass.continuesSyllable : LineClass → Bool
  | syllableLetter | dottedCircle => true
  | _ => false

/-- The class stays with a pair of circles before it. -/
def LineClass.staysWithPair : LineClass → Bool
  | letter | hebrew | opening | openingQuote | nonStarter | finalVirama => true
  | _ => false

/-- A quotation mark right after the class opens a quotation. -/
def LineClass.introduces (k : LineClass) : Bool :=
  k.endsLine || k.isOpening || k.isQuote || k == .glue || k == .zeroSpace

/-- What stands before a place in a text. -/
structure LineState where
  /-- The class of the last character that is neither a space nor attached to another one. -/
  last : Option LineClass := none
  /-- Spaces stand after it. -/
  spaced : Bool := false
  /-- A joiner stands right before the place. -/
  joined : Bool := false
  /-- The last character is a hyphen right after a Hebrew letter. -/
  hebrewHyphen : Bool := false
  /-- The last character is the first of a pair of regional indicators. -/
  openPair : Bool := false
  /-- The last character is a quotation mark that opens a quotation. -/
  quoting : Bool := false
  /-- The last character is a sign right after the consonant that it joins to the next one. -/
  conjoined : Bool := false
  /-- The last character is the second of a pair of circles. -/
  circled : Bool := false
  deriving Repr, DecidableEq

namespace LineState

/-- The last character has the given class. -/
def endsWith (s : LineState) (k : LineClass) : Bool := s.last == some k

/-- The last character has the given class, and no space follows it. -/
def follows (s : LineState) (k : LineClass) : Bool := !s.spaced && s.endsWith k

/-- The last character has a class of the given kind, and no space follows it. -/
def adjoins (s : LineState) (kind : LineClass → Bool) : Bool := !s.spaced && s.last.any kind

/-- A quotation mark at this place opens a quotation: it starts the text, or stands after a space or
a character that introduces a quotation. -/
def opensQuotation (s : LineState) : Bool := s.spaced || s.last.all LineClass.introduces

/-- A character of the class attaches to the last one. -/
def absorbs (s : LineState) (k : LineClass) : Bool :=
  k.attaches && !s.spaced &&
    match s.last with
    | none => false
    | some a => !a.endsLine && a != .zeroSpace

/-- The class that counts: what attaches to nothing is a letter. -/
def resolve (s : LineState) (k : LineClass) : LineClass :=
  if k.attaches && !s.absorbs k then .letter else k

/-- What stands before the place after a character. -/
def advance (s : LineState) (k : LineClass) : LineState :=
  if k = .space then { s with spaced := true, joined := false }
  else if s.absorbs k then { s with joined := k == .joiner }
  else
    let r := s.resolve k
    { last := some r
      joined := k == .joiner
      hebrewHyphen := (r == .hyphen || r == .breakAfter) && s.follows .hebrew
      openPair := r == .regional && !(s.follows .regional && s.openPair)
      quoting := r == .openingQuote && s.opensQuotation
      conjoined := r == .virama && s.adjoins LineClass.startsSyllable && !s.circled
      circled := r == .dottedCircle && s.follows .dottedCircle && !s.circled }

end LineState

/-! ## What comes next -/

/-- The class of the next character that does not attach to another one. -/
def nextClass? (rest : List LineClass) : Option LineClass := rest.find? fun k => !k.attaches

/-- A quotation mark right before the class closes a quotation. -/
def LineClass.concludes (k : LineClass) : Bool :=
  k.endsLine || k.isQuote ||
    [.space, .glue, .wordJoiner, .closing, .closingParen, .exclamation, .separator, .slash,
      .zeroSpace].contains k

/-- A quotation mark before the rest of a text closes a quotation. -/
def closesQuotation (rest : List LineClass) : Bool := (nextClass? rest).all LineClass.concludes

/-! ## Rules -/

/-- The classes of Hangul letters and syllables. -/
def hangulClasses : List LineClass :=
  [.leadJamo, .vowelJamo, .tailJamo, .openSyllable, .closedSyllable]

/-- The classes of letters that form words. -/
def letterClasses : List LineClass := [.letter, .hebrew, .dottedCircle]

/-- The classes of characters that can begin a Brahmic syllable. -/
def syllableClasses : List LineClass := [.syllableLetter, .syllableStart, .dottedCircle]

/-- The classes of pictures and ideographs. -/
def pictureClasses : List LineClass := [.ideograph, .emojiBase, .emojiModifier]

/-- Neighbours that stay together: any class on the left with any on the right. -/
def stickingPairs : List (List LineClass × List LineClass) :=
  [(letterClasses, [.numeric]),
   ([.numeric], letterClasses),
   ([.unitBefore], pictureClasses),
   (pictureClasses, [.unitAfter]),
   ([.unitBefore, .unitAfter], letterClasses),
   (letterClasses, [.unitBefore, .unitAfter]),
   ([.closing, .closingParen, .numeric], [.unitAfter, .unitBefore]),
   ([.unitAfter, .unitBefore], [.opening, .wideOpening, .numeric]),
   ([.hyphen, .separator, .numeric, .slash], [.numeric]),
   ([.leadJamo], [.leadJamo, .vowelJamo, .openSyllable, .closedSyllable]),
   ([.vowelJamo, .openSyllable], [.vowelJamo, .tailJamo]),
   ([.tailJamo, .closedSyllable], [.tailJamo]),
   (hangulClasses, [.unitAfter]),
   ([.unitBefore], hangulClasses),
   (letterClasses, letterClasses),
   ([.syllablePrelude], syllableClasses),
   (syllableClasses, [.virama, .finalVirama]),
   ([.separator], letterClasses),
   (.numeric :: letterClasses, [.opening]),
   ([.closingParen], .numeric :: letterClasses),
   ([.emojiBase], [.emojiModifier])]

/-- The two classes stay together as neighbours. -/
def sticks (a b : LineClass) : Bool :=
  stickingPairs.any fun (left, right) => left.contains a && right.contains b

/-- The class stays with what is before it, even over spaces. -/
def LineClass.trails : LineClass → Bool
  | closing | closingParen | exclamation | separator | slash => true
  | _ => false

/-- The class stays with the character before it. -/
def LineClass.leans : LineClass → Bool
  | breakAfter | hyphen | nonStarter => true
  | _ => false

namespace LineState

/-- A character of class `k` before `rest` belongs to the Brahmic syllable of the last one. -/
def staysInSyllable (s : LineState) (k : LineClass) (rest : List LineClass) : Bool :=
  (s.conjoined && k.continuesSyllable) ||
    (s.adjoins LineClass.startsSyllable && k.startsSyllable && nextClass? rest == some .finalVirama)

/-- A line may break between the last character, of class `a`, and its neighbour of class `k`, with
`rest` after it. -/
def mayPart (s : LineState) (a k : LineClass) (rest : List LineClass) : Bool :=
  if k.isQuote || a.isQuote then false
  else if k = .object || a = .object then true
  else if k.leans || a = .breakBefore then false
  else if s.hebrewHyphen || (a = .slash && k = .hebrew) then false
  else if k = .leader then false
  else if a = .regional && k = .regional then !s.openPair
  else if s.staysInSyllable k rest then false
  else !sticks a k

/-- A line may break before a character of class `k` with `rest` after it; the character does not
attach, is no space and ends no line. -/
def mayStart (s : LineState) (k : LineClass) (rest : List LineClass) : Bool :=
  if k = .wordJoiner || s.follows .wordJoiner || s.follows .glue then false
  else if k = .glue && !s.spaced && !s.follows .breakAfter && !s.follows .hyphen then false
  else if k.trails || s.last.any LineClass.isOpening then false
  else if s.quoting then false
  else if k = .closingQuote && closesQuotation rest then false
  else if (s.endsWith .closing || s.endsWith .closingParen) && k = .nonStarter then false
  else if s.endsWith .dash && k = .dash then false
  else if s.spaced then true
  else
    match s.last with
    | none => false
    | some a => s.mayPart a k rest

/-- **The rules.** A line may break before a character of class `k` with `rest` after it. -/
def mayBreak (s : LineState) (k : LineClass) (rest : List LineClass) : Bool :=
  if s.last.isNone && !s.spaced then false
  else if !s.spaced && s.last.any LineClass.endsLine then
    !(s.endsWith .carriageReturn && k = .lineFeed)
  else if k.endsLine || k = .space || k = .zeroSpace then false
  else if s.endsWith .zeroSpace then true
  else if s.joined || s.absorbs k then false
  else if s.circled && !s.spaced then !k.staysWithPair
  else s.mayStart (s.resolve k) rest

/-- No line breaks before the first character. -/
@[simp] theorem mayBreak_start (k : LineClass) (rest : List LineClass) :
    mayBreak {} k rest = false := by
  simp [mayBreak]

end LineState

/-! ## Texts -/

/-- For each character of a text, given by classes, whether a line may break before it. -/
def breakMarksFrom (s : LineState) : List LineClass → List Bool
  | [] => []
  | k :: rest => s.mayBreak k rest :: breakMarksFrom (s.advance k) rest

/-- For each character of a whole text, whether a line may break before it. -/
def breakMarks (s : List Char) : List Bool := breakMarksFrom {} (s.map lineClass)

@[simp] theorem length_breakMarksFrom (st : LineState) (ks : List LineClass) :
    (breakMarksFrom st ks).length = ks.length := by
  induction ks generalizing st with
  | nil => rfl
  | cons k ks ih => simp [breakMarksFrom, ih]

@[simp] theorem length_breakMarks (s : List Char) : (breakMarks s).length = s.length := by
  simp [breakMarks]

end LayerLint.Text
