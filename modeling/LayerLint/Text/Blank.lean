/-!
# `Text.Blank` — white space and trimming

The characters that count as blank are those of the Unicode property `White_Space`. Trimming strips
them from both ends of a text and nothing else.

## Contents
- **The class.** `isBlank`, a closed list of 25 characters.
- **Trimming.** `trimStart`, `trimEnd`, `trim` on character lists and `String`s, with the two ends of
  a trimmed text shown to be non-blank.
-/

namespace LayerLint.Text

/-! ## The class -/

/-- The 25 characters of the Unicode property `White_Space`. -/
def isBlank (c : Char) : Bool :=
  let n := c.toNat
  (0x09 ≤ n && n ≤ 0x0D) || n == 0x20 || n == 0x85 || n == 0xA0 || n == 0x1680 ||
    (0x2000 ≤ n && n ≤ 0x200A) || n == 0x2028 || n == 0x2029 || n == 0x202F || n == 0x205F ||
    n == 0x3000

/-! ## Trimming -/

/-- Drops the blanks a text starts with. -/
def trimStart (s : List Char) : List Char := s.dropWhile isBlank

/-- Drops the blanks a text ends with. -/
def trimEnd (s : List Char) : List Char := (s.reverse.dropWhile isBlank).reverse

/-- Drops the blanks at both ends. -/
def trimChars (s : List Char) : List Char := trimEnd (trimStart s)

/-- Drops the blanks at both ends of a string. -/
def trim (s : String) : String := String.ofList (trimChars s.toList)

@[simp] theorem trimChars_nil : trimChars [] = [] := rfl

@[simp] theorem toList_trim (s : String) : (trim s).toList = trimChars s.toList := by
  simp [trim]

/-- What `dropWhile` leaves does not start with a character it drops. -/
theorem head?_dropWhile_not {p : Char → Bool} {s : List Char} {c : Char}
    (h : (s.dropWhile p).head? = some c) : p c = false := by
  induction s with
  | nil => simp at h
  | cons d s ih =>
      by_cases hd : p d = true
      · exact ih (by simpa [List.dropWhile_cons, hd] using h)
      · have hf : p d = false := by simpa using hd
        have : d = c := by simpa [List.dropWhile_cons, hf] using h
        exact this ▸ hf

/-- A trimmed text does not end with a blank. -/
theorem isBlank_getLast?_trimChars {s : List Char} {c : Char}
    (h : (trimChars s).getLast? = some c) : isBlank c = false := by
  unfold trimChars trimEnd at h
  rw [List.getLast?_reverse] at h
  exact head?_dropWhile_not h

/-- A text without blanks at its ends is left as it is. -/
theorem trimChars_eq_self {s : List Char} (hh : ∀ c, s.head? = some c → isBlank c = false)
    (hl : ∀ c, s.getLast? = some c → isBlank c = false) : trimChars s = s := by
  have hstart : trimStart s = s := by
    cases s with
    | nil => rfl
    | cons c s => simp [trimStart, hh c rfl]
  have hend : trimEnd s = s := by
    unfold trimEnd
    rcases hr : s.reverse with _ | ⟨c, r⟩
    · have : s = [] := by simpa using hr
      simp [this]
    · have hc : isBlank c = false := hl c (by rw [← List.head?_reverse, hr]; rfl)
      rw [List.dropWhile_cons, if_neg (by simp [hc]), ← hr, List.reverse_reverse]
  rw [trimChars, hstart, hend]

end LayerLint.Text
