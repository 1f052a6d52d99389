/-!
# `Text.Search` — containment, ends and pieces of texts

All searches compare characters exactly; callers fold case beforehand where a rule asks for it.

## Contents
- **Containment.** `occursIn`, `startsWith`, `endsWith`.
- **Pieces.** `pieces`: the maximal runs between separators, empty ones included.
- **ASCII case.** `sameIgnoringCase`: equality up to the case of ASCII letters.
-/

namespace LayerLint.Text

/-! ## Containment -/

/-- `needle` stands somewhere in the text. -/
def occursInChars (needle : List Char) : List Char → Bool
  | [] => needle.isEmpty
  | c :: rest => needle.isPrefixOf (c :: rest) || occursInChars needle rest

/-- `needle` stands somewhere in `text`. -/
def occursIn (needle text : String) : Bool := occursInChars needle.toList text.toList

/-- `text` starts with `start`. -/
def startsWith (text start : String) : Bool := start.toList.isPrefixOf text.toList

/-- `text` ends with `ending`. -/
def endsWith (text ending : String) : Bool := ending.toList.isSuffixOf text.toList

/-- Containment means that the text splits around the needle. -/
theorem occursInChars_iff {needle text : List Char} :
    occursInChars needle text = true ↔ ∃ before after, text = before ++ needle ++ after := by
  induction text with
  | nil =>
      simp only [occursInChars, List.isEmpty_iff]
      constructor
      · rintro rfl
        exact ⟨[], [], rfl⟩
      · rintro ⟨b, a, h⟩
        simp_all
  | cons c rest ih =>
      simp only [occursInChars, Bool.or_eq_true, List.isPrefixOf_iff_prefix, ih]
      constructor
      · rintro (⟨a, h⟩ | ⟨b, a, h⟩)
        · exact ⟨[], a, by simpa using h.symm⟩
        · exact ⟨c :: b, a, by simp [h]⟩
      · rintro ⟨b, a, h⟩
        cases b with
        | nil => exact .inl ⟨a, by simpa using h.symm⟩
        | cons d b =>
            have hr : c = d ∧ rest = b ++ needle ++ a := by simpa using h
            exact .inr ⟨b, a, hr.2⟩

/-! ## Pieces -/

/-- The runs between characters that satisfy `sep`; `n` separators give `n + 1` pieces. -/
def pieces (sep : Char → Bool) : List Char → List (List Char)
  | [] => [[]]
  | c :: rest =>
      if sep c then [] :: pieces sep rest
      else
        match pieces sep rest with
        | [] => [[c]]
        | p :: ps => (c :: p) :: ps

theorem pieces_ne_nil (sep : Char → Bool) (s : List Char) : pieces sep s ≠ [] := by
  cases s with
  | nil => simp [pieces]
  | cons c s =>
      simp only [pieces]
      split
      · simp
      · split <;> simp

/-- A text without separators is its only piece. -/
theorem pieces_of_forall_not {sep : Char → Bool} {s : List Char} (h : ∀ c ∈ s, sep c = false) :
    pieces sep s = [s] := by
  induction s with
  | nil => rfl
  | cons d s ih =>
      obtain ⟨hd, hs⟩ := List.forall_mem_cons.mp h
      rw [pieces, hd, ih hs]
      rfl

/-- A separator between two texts separates their pieces. -/
theorem pieces_append_sep {sep : Char → Bool} {c : Char} (hc : sep c = true) (a b : List Char) :
    pieces sep (a ++ c :: b) = pieces sep a ++ pieces sep b := by
  induction a with
  | nil => simp [pieces, hc]
  | cons d a ih =>
      by_cases hd : sep d = true
      · simp [pieces, hd, ih]
      · simp only [List.cons_append, pieces, hd, ih]
        rcases h : pieces sep a with _ | ⟨p, ps⟩
        · exact absurd h (pieces_ne_nil sep a)
        · simp

/-! ## ASCII case -/

/-- Equality up to the case of ASCII letters; other characters must agree exactly. -/
def sameIgnoringCase (a b : String) : Bool :=
  a.toList.map Char.toLower == b.toList.map Char.toLower

@[simp] theorem sameIgnoringCase_self (a : String) : sameIgnoringCase a a = true := by
  simp [sameIgnoringCase]

end LayerLint.Text
