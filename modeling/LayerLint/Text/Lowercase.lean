import LayerLint.Text.CaseTable

/-!
# `Text.Lowercase` — full lower-casing

A text is lower-cased character by character. Two capitals need more than the table of simple
mappings: `İ` becomes two characters, and `Σ` becomes `ς` at the end of a word and `σ` elsewhere, so
its form depends on its neighbours.

## Contents
- **One character.** `lowerChar`, the simple mapping, and `lowerAt`, the mapping in context.
- **Words.** `endsWord`: the condition under which a capital sigma closes a word.
- **Texts.** `lowerFrom`, the lower case of a text after others, and from it `lowerChars` and `lower`;
  only a capital sigma looks at its neighbours (`lowerAt_of_ne`).
-/

namespace LayerLint.Text

/-! ## One character -/

/-- The simple lower case of a character: ASCII capitals by core's rule, the others by table. -/
def lowerChar (c : Char) : Char :=
  if c.toNat < 0x80 then c.toLower
  else
    match lowerRanges.find? (·.holds c.toNat) with
    | some r => Char.ofNat (r.image + (c.toNat - r.first))
    | none => c

/-! ## Words -/

/-- Letters that have or are a case form. -/
def isCased (c : Char) : Bool := inRanges casedRanges c.toNat

/-- Characters that stand inside a word without ending it. -/
def isCaseIgnorable (c : Char) : Bool := inRanges caseIgnorableRanges c.toNat

/-- The first character that is not ignorable is a cased letter. -/
def reachesLetter (s : List Char) : Bool :=
  match s.dropWhile isCaseIgnorable with
  | [] => false
  | c :: _ => isCased c

/-- A capital sigma with `before` (nearest first) on its left and `after` on its right closes a word:
a letter stands before it and none after it. -/
def endsWord (before after : List Char) : Bool :=
  reachesLetter before && !reachesLetter after

/-- The lower case of one character between its neighbours, `before` given nearest first. -/
def lowerAt (before : List Char) (c : Char) (after : List Char) : List Char :=
  if c = 'Σ' then [if endsWord before after then 'ς' else 'σ']
  else if c = 'İ' then ['i', Char.ofNat 0x307]
  else [lowerChar c]

/-! ## Texts -/

/-- Lower-cases a text that follows `before` (nearest first). -/
def lowerFrom (before : List Char) : List Char → List Char
  | [] => []
  | c :: rest => lowerAt before c rest ++ lowerFrom (c :: before) rest

/-- Full lower-casing of a character list. -/
def lowerChars (s : List Char) : List Char := lowerFrom [] s

/-- Full lower-casing of a string. -/
def lower (s : String) : String := String.ofList (lowerChars s.toList)

@[simp] theorem lowerFrom_nil (before : List Char) : lowerFrom before [] = [] := rfl

@[simp] theorem lowerChars_nil : lowerChars [] = [] := rfl

@[simp] theorem toList_lower (s : String) : (lower s).toList = lowerChars s.toList := by
  simp [lower]

/-- Only a capital sigma looks at its neighbours. -/
theorem lowerAt_of_ne {c : Char} (h : c ≠ 'Σ') (b a b' a' : List Char) :
    lowerAt b c a = lowerAt b' c a' := by
  simp [lowerAt, h]

end LayerLint.Text
