import LayerLint.Text.Blank
import LayerLint.Text.Lowercase
import Mathlib.Data.List.TakeWhile

/-!
# `Proofs.Casing` — lower case is final, and blanks keep their place

Lower-casing maps characters by a table, and two capitals by rules of their own. No form that it gives is
again a capital of the table or one of the two, so a text in lower case stays as it is. No form is blank
either, so lower-casing neither makes nor loses a blank: a text that is trimmed stays trimmed.

## Contents
- **Table.** `CaseRange.avoids`, decided by bounds or by parity, and what the whole table avoids.
- **Characters.** `IsSmall`; `isSmall_lowerChar`, `eq_of_isBlank_lowerChar`.
- **Texts.** `lowerChars_lowerChars`, `count_lowerFrom`: blanks are where they were.
- **Trimming.** What is trimmed and then lower-cased is trimmed.
-/

namespace LayerLint.Text

/-! ## Table -/

namespace CaseRange

/-- The last of the lower-case forms. -/
def lastImage (r : CaseRange) : Nat := r.image + (r.last - r.first)

/-- No lower-case form of the range is among `first, first + stride, …, last`: they lie apart, or their
parities differ. -/
def avoids (r : CaseRange) (first last stride : Nat) : Bool :=
  Nat.blt last r.image || Nat.blt r.lastImage first ||
    ((r.stride == 2 || r.first == r.last) && stride == 2 && (r.image + first) % 2 == 1)

theorem not_holds_of_avoids {r : CaseRange} {first last stride n m : Nat} (h : r.avoids first last stride)
    (hn : r.holds n) : ¬CaseRange.holds ⟨first, last, stride, m⟩ (r.image + (n - r.first)) := by
  simp only [avoids, lastImage, Bool.or_eq_true, Bool.and_eq_true, Nat.blt_eq, beq_iff_eq] at h
  simp only [holds, Bool.and_eq_true, decide_eq_true_eq, beq_iff_eq] at hn ⊢
  rintro ⟨⟨hfirst, hlast⟩, hstep⟩
  obtain ⟨⟨hlow, hhigh⟩, hmod⟩ := hn
  rcases h with (hbelow | habove) | ⟨⟨hr, rfl⟩, hparity⟩
  · omega
  · omega
  · rcases hr with hr | hr
    · rw [hr] at hmod
      omega
    · omega

/-- A range of single characters is held by its bounds. -/
theorem not_mem_of_avoids {r : CaseRange} {first last n : Nat} (h : r.avoids first last 1) (hn : r.holds n) :
    ¬(first ≤ r.image + (n - r.first) ∧ r.image + (n - r.first) ≤ last) := by
  rintro ⟨hfirst, hlast⟩
  apply not_holds_of_avoids (m := 0) h hn
  simp [holds, hfirst, hlast, Nat.mod_one]

end CaseRange

/-- Characters that no lower-case form is: capitals that are not in the table, surrogates, and blanks. -/
def barredRanges : List (Nat × Nat) :=
  [(0x41, 0x5A), (0x130, 0x130), (0xD800, 0xDFFF), (0x09, 0x0D), (0x20, 0x20), (0x85, 0x85), (0xA0, 0xA0),
   (0x1680, 0x1680), (0x2000, 0x200A), (0x2028, 0x2029), (0x202F, 0x202F), (0x205F, 0x205F), (0x3000, 0x3000)]

/-- The forms of a range are characters, and none of them is a capital or blank. -/
def CaseRange.isFinal (r : CaseRange) : Bool :=
  Nat.blt r.lastImage 0x110000 && barredRanges.all (fun b => r.avoids b.1 b.2 1) &&
    lowerRanges.all fun q => r.avoids q.first q.last q.stride

theorem all_isFinal : lowerRanges.all CaseRange.isFinal = true := by decide +kernel

/-! ## Characters -/

/-- Blanks are barred. -/
theorem inRanges_barred_of_isBlank {c : Char} (h : isBlank c = true) : inRanges barredRanges c.toNat = true := by
  simp only [isBlank, Bool.or_eq_true, Bool.and_eq_true, decide_eq_true_eq, beq_iff_eq] at h
  simp only [inRanges, barredRanges, List.any_cons, List.any_nil, Bool.or_eq_true, Bool.and_eq_true,
    decide_eq_true_eq]
  omega

/-- The form of a capital of the table: no character of the table, and not barred. -/
theorem of_find? {n : Nat} {r : CaseRange} (h : lowerRanges.find? (·.holds n) = some r) :
    (Char.ofNat (r.image + (n - r.first))).toNat = r.image + (n - r.first) ∧
      lowerRanges.find? (·.holds (r.image + (n - r.first))) = none ∧
      inRanges barredRanges (r.image + (n - r.first)) = false := by
  have hholds : r.holds n = true := List.find?_some (p := fun q : CaseRange => q.holds n) h
  have hfinal := List.all_eq_true.mp all_isFinal r (List.mem_of_find?_eq_some h)
  simp only [CaseRange.isFinal, Bool.and_eq_true, Nat.blt_eq, List.all_eq_true] at hfinal
  obtain ⟨⟨hlast, hbarred⟩, htable⟩ := hfinal
  have hout : ∀ b ∈ barredRanges, ¬(b.1 ≤ r.image + (n - r.first) ∧ r.image + (n - r.first) ≤ b.2) :=
    fun b hb => CaseRange.not_mem_of_avoids (hbarred b hb) hholds
  refine ⟨?_, ?_, ?_⟩
  · have hsurrogate := hout (0xD800, 0xDFFF) (by decide)
    have hbound : r.image + (n - r.first) ≤ r.lastImage := by
      simp only [CaseRange.holds, Bool.and_eq_true, decide_eq_true_eq] at hholds
      unfold CaseRange.lastImage
      omega
    have hvalid : (r.image + (n - r.first)).isValidChar := by
      unfold Nat.isValidChar
      dsimp only at hsurrogate
      omega
    rw [Char.ofNat, dif_pos hvalid]
    rfl
  · rw [List.find?_eq_none]
    intro q hq
    exact CaseRange.not_holds_of_avoids (htable q hq) hholds
  · rw [inRanges, List.any_eq_false]
    intro b hb
    simpa using hout b hb

/-- **Lower-casing leaves the character alone**, wherever it stands. -/
def IsSmall (c : Char) : Prop := c ≠ 'Σ' ∧ c ≠ 'İ' ∧ lowerChar c = c

theorem IsSmall.lowerAt_eq {c : Char} (h : IsSmall c) (before after : List Char) :
    lowerAt before c after = [c] := by
  obtain ⟨hsigma, hdotted, hfixed⟩ := h
  rw [lowerAt, if_neg hsigma, if_neg hdotted, hfixed]

/-- What the table or core's rule gives is small. -/
theorem isSmall_lowerChar {c : Char} (h : c ≠ 'İ') : IsSmall (lowerChar c) := by
  by_cases hc : c.toNat < 0x80
  · have hascii : ∀ n < 0x80, IsSmall (lowerChar (Char.ofNat n)) := by
      unfold IsSmall
      decide +kernel
    have hsmall := hascii c.toNat hc
    rwa [Char.ofNat_toNat] at hsmall
  · unfold lowerChar
    rw [if_neg hc]
    cases hfind : lowerRanges.find? (·.holds c.toNat) with
    | none =>
        -- a sigma would have been found
        refine ⟨?_, h, ?_⟩
        · rintro rfl
          exact absurd hfind (by decide +kernel)
        · rw [lowerChar, if_neg hc, hfind]
    | some r =>
        obtain ⟨hchar, hnone, hbarred⟩ := of_find? hfind
        dsimp only
        generalize r.image + (c.toNat - r.first) = n at hchar hnone hbarred
        have hdotted : Char.ofNat n ≠ 'İ' := by
          intro heq
          have hn : n = 0x130 := by rw [← hchar, heq]; decide
          rw [hn] at hbarred
          exact absurd hbarred (by decide)
        have hsigma : Char.ofNat n ≠ 'Σ' := by
          intro heq
          have hn : n = 0x3A3 := by rw [← hchar, heq]; decide
          rw [hn] at hnone
          exact absurd hnone (by decide +kernel)
        refine ⟨hsigma, hdotted, ?_⟩
        by_cases hsmall : n < 0x80
        · -- the only such form is that of a letter without a case mapping of its own
          have hletter : ∀ k < 0x80, inRanges barredRanges k = false → lowerChar (Char.ofNat k) = Char.ofNat k := by
            decide +kernel
          exact hletter n hsmall hbarred
        · rw [lowerChar, hchar, if_neg hsmall, hnone]

/-- A character whose form is blank is that form. -/
theorem eq_of_isBlank_lowerChar {c : Char} (h : isBlank (lowerChar c) = true) : lowerChar c = c := by
  by_cases hc : c.toNat < 0x80
  · have hascii : ∀ n < 0x80, isBlank (lowerChar (Char.ofNat n)) = true →
        lowerChar (Char.ofNat n) = Char.ofNat n := by decide +kernel
    have hfixed := hascii c.toNat hc
    rw [Char.ofNat_toNat] at hfixed
    exact hfixed h
  · unfold lowerChar at h ⊢
    rw [if_neg hc] at h ⊢
    cases hfind : lowerRanges.find? (·.holds c.toNat) with
    | none => rfl
    | some r =>
        obtain ⟨hchar, -, hbarred⟩ := of_find? hfind
        rw [hfind] at h
        have hblank := inRanges_barred_of_isBlank h
        rw [hchar, hbarred] at hblank
        cases hblank

/-- The blanks one by one. -/
def blankCodes : List Nat :=
  List.range' 0x09 5 ++ [0x20, 0x85, 0xA0, 0x1680] ++ List.range' 0x2000 11 ++
    [0x2028, 0x2029, 0x202F, 0x205F, 0x3000]

/-- Blanks have no case. -/
theorem isSmall_of_isBlank {c : Char} (h : isBlank c = true) : IsSmall c := by
  have hall : ∀ n ∈ blankCodes, IsSmall (Char.ofNat n) := by
    unfold IsSmall
    decide +kernel
  have hcode : c.toNat ∈ blankCodes := by
    simp only [isBlank, Bool.or_eq_true, Bool.and_eq_true, decide_eq_true_eq, beq_iff_eq] at h
    simp only [blankCodes, List.mem_append, List.mem_range'_1, List.mem_cons, List.not_mem_nil, or_false]
    omega
  have hsmall := hall c.toNat hcode
  rwa [Char.ofNat_toNat] at hsmall

/-! ## Texts -/

theorem lowerAt_ne_nil (before : List Char) (c : Char) (after : List Char) : lowerAt before c after ≠ [] := by
  unfold lowerAt
  split
  · exact List.cons_ne_nil _ _
  · split <;> exact List.cons_ne_nil _ _

/-- Every character of a lower case is small. -/
theorem isSmall_of_mem_lowerAt {before after : List Char} {c x : Char} (h : x ∈ lowerAt before c after) :
    IsSmall x := by
  unfold lowerAt at h
  split at h
  · rw [List.mem_singleton] at h
    subst h
    split
    · exact ⟨by decide, by decide, by decide +kernel⟩
    · exact ⟨by decide, by decide, by decide +kernel⟩
  · split at h
    · rcases (by simpa using h : x = 'i' ∨ x = Char.ofNat 0x307) with rfl | rfl
      · exact ⟨by decide, by decide, by decide +kernel⟩
      · exact ⟨by decide, by decide, by decide +kernel⟩
    · next hdotted =>
        rw [List.mem_singleton] at h
        exact h ▸ isSmall_lowerChar hdotted

/-- A blank in the lower case of a character is that character. -/
theorem eq_of_mem_lowerAt_of_isBlank {before after : List Char} {c x : Char} (h : x ∈ lowerAt before c after)
    (hx : isBlank x = true) : x = c := by
  unfold lowerAt at h
  split at h
  · rw [List.mem_singleton] at h
    subst h
    split at hx <;> exact absurd hx (by decide)
  · split at h
    · rcases (by simpa using h : x = 'i' ∨ x = Char.ofNat 0x307) with rfl | rfl <;> exact absurd hx (by decide)
    · rw [List.mem_singleton] at h
      subst h
      exact eq_of_isBlank_lowerChar hx

theorem isSmall_of_mem_lowerFrom {s : List Char} {before : List Char} {x : Char} (h : x ∈ lowerFrom before s) :
    IsSmall x := by
  induction s generalizing before with
  | nil => cases h
  | cons c s ih =>
      rw [lowerFrom, List.mem_append] at h
      exact h.elim isSmall_of_mem_lowerAt ih

theorem lowerFrom_eq_self {s : List Char} (h : ∀ x ∈ s, IsSmall x) (before : List Char) :
    lowerFrom before s = s := by
  induction s generalizing before with
  | nil => rfl
  | cons c s ih =>
      obtain ⟨hc, hs⟩ := List.forall_mem_cons.mp h
      rw [lowerFrom, hc.lowerAt_eq, ih hs]
      rfl

/-- **A text in lower case stays as it is.** -/
theorem lowerChars_lowerChars (s : List Char) : lowerChars (lowerChars s) = lowerChars s :=
  lowerFrom_eq_self (fun _ hx => isSmall_of_mem_lowerFrom hx) []

/-- **Blanks stay**, and nothing else becomes one. -/
theorem count_lowerFrom {x : Char} (hx : isBlank x = true) (before s : List Char) :
    (lowerFrom before s).count x = s.count x := by
  induction s generalizing before with
  | nil => rfl
  | cons c s ih =>
      rw [lowerFrom, List.count_append, ih, Nat.add_comm, List.count_cons]
      by_cases hc : c = x
      · subst hc
        rw [(isSmall_of_isBlank hx).lowerAt_eq, List.count_singleton_self, if_pos (beq_self_eq_true c)]
      · have hmem : x ∉ lowerAt before c s := fun hmem => hc (eq_of_mem_lowerAt_of_isBlank hmem hx).symm
        rw [List.count_eq_zero.mpr hmem, if_neg (by simpa using hc)]

theorem lowerFrom_eq_nil_iff {before s : List Char} : lowerFrom before s = [] ↔ s = [] := by
  cases s with
  | nil => simp
  | cons c s => simp [lowerFrom, lowerAt_ne_nil]

/-- If a lower case starts with a blank, so does the text. -/
theorem head?_of_head?_lowerFrom {before s : List Char} {x : Char} (h : (lowerFrom before s).head? = some x)
    (hx : isBlank x = true) : s.head? = some x := by
  cases s with
  | nil => cases h
  | cons c s =>
      obtain ⟨y, ys, hy⟩ := List.exists_cons_of_ne_nil (lowerAt_ne_nil before c s)
      rw [lowerFrom, hy, List.cons_append, List.head?_cons, Option.some.injEq] at h
      have hmem : x ∈ lowerAt before c s := by rw [hy, h]; exact .head _
      rw [eq_of_mem_lowerAt_of_isBlank hmem hx, List.head?_cons]

/-- If a lower case ends with a blank, so does the text. -/
theorem getLast?_of_getLast?_lowerFrom {before s : List Char} {x : Char}
    (h : (lowerFrom before s).getLast? = some x) (hx : isBlank x = true) : s.getLast? = some x := by
  induction s generalizing before with
  | nil => cases h
  | cons c s ih =>
      rw [lowerFrom] at h
      by_cases hs : s = []
      · subst hs
        rw [lowerFrom_nil, List.append_nil] at h
        have hmem : x ∈ lowerAt before c [] := List.mem_of_mem_getLast? h
        rw [eq_of_mem_lowerAt_of_isBlank hmem hx, List.getLast?_singleton]
      · -- what follows is not empty, so it holds the last character
        have hrest : lowerFrom (c :: before) s ≠ [] := mt lowerFrom_eq_nil_iff.mp hs
        rw [List.getLast?_append, List.getLast?_eq_some_getLast hrest, Option.some_or] at h
        rw [List.getLast?_cons, ih ((List.getLast?_eq_some_getLast hrest).trans h)]
        rfl

/-! ## Trimming -/

/-- A trimmed text does not start with a blank. -/
theorem isBlank_head?_trimChars {s : List Char} {c : Char} (h : (trimChars s).head? = some c) :
    isBlank c = false := by
  have hsuffix : trimEnd (trimStart s) <+: trimStart s := by
    unfold trimEnd
    rw [← List.reverse_suffix, List.reverse_reverse]
    exact List.dropWhile_suffix _
  obtain ⟨rest, hrest⟩ := hsuffix
  apply head?_dropWhile_not (p := isBlank) (s := s)
  show (trimStart s).head? = some c
  rw [← hrest, List.head?_append, show (trimEnd (trimStart s)).head? = some c from h]
  rfl

/-- Nothing is left of a text exactly if it is blank throughout. -/
theorem trimChars_eq_nil_iff {s : List Char} : trimChars s = [] ↔ ∀ c ∈ s, isBlank c = true := by
  unfold trimChars trimEnd trimStart
  rw [List.reverse_eq_nil_iff, List.dropWhile_eq_nil_iff]
  constructor
  · intro h c hc
    rw [← List.takeWhile_append_dropWhile (p := isBlank) (l := s), List.mem_append] at hc
    rcases hc with hc | hc
    · exact List.mem_takeWhile_imp hc
    · exact h c (List.mem_reverse.mpr hc)
  · intro h c hc
    exact h c ((List.dropWhile_suffix _).mem (List.mem_reverse.mp hc))

/-- **A trimmed text in lower case is trimmed.** -/
theorem trimChars_lowerChars (s : List Char) :
    trimChars (lowerChars (trimChars s)) = lowerChars (trimChars s) := by
  apply trimChars_eq_self
  · intro x hx
    by_contra hblank
    rw [Bool.not_eq_false] at hblank
    rw [isBlank_head?_trimChars (head?_of_head?_lowerFrom hx hblank)] at hblank
    cases hblank
  · intro x hx
    by_contra hblank
    rw [Bool.not_eq_false] at hblank
    rw [isBlank_getLast?_trimChars (getLast?_of_getLast?_lowerFrom hx hblank)] at hblank
    cases hblank

end LayerLint.Text
