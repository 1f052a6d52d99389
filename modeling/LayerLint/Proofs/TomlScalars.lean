import LayerLint.Proofs.TomlStrings
import LayerLint.Toml.Document

/-!
# `Proofs.TomlScalars` — the written forms of numbers and dates

Scalars without quotes are told apart by trying one reader after the other on the front of a text. For each
kind a relation says which texts spell such a scalar, and the reader is shown to read every such text as what
it spells, if what follows can follow a value: in particular no reader that is tried first takes it.

## Contents
- **What follows a value.** `After`.
- **Digits.** `SpellsDigits`, `Fixed`: runs with underscores, and a fixed number of digits.
- **Integers.** `SpellsInteger`.
- **Floats.** `SpellsFloat`.
- **Dates.** `SpellsDateTime`; only texts that are `Dated` can be dates or times.
- **Scalars.** `SpellsPlain` and `plainScalar_spells`.
-/

namespace LayerLint.Toml

/-! ## What follows a value -/

/-- The characters that end a value: of a comment, a line break, an array or an inline table. -/
def isDelimiter (c : Char) : Bool :=
  c == '#' || c == '\n' || c == '\r' || c == ',' || c == ']' || c == '\x7d'

/-- **A value may end here**: blanks aside, the text is over or one of these characters follows. -/
def After (rest : List Char) : Prop := Ends (fun c => !isDelimiter c) (rest.dropWhile isSpace)

/-- The next character is a blank or one of those that end a value. -/
theorem After.ends {rest : List Char} (h : After rest) {p : Char → Bool}
    (hp : [' ', '\t', '#', '\n', '\r', ',', ']', '\x7d'].any p = false) : Ends p rest := by
  cases rest with
  | nil => exact .nil
  | cons c rest =>
      rw [Ends.cons_iff]
      refine Bool.eq_false_iff.mpr (List.any_eq_false.mp hp c ?_)
      by_cases hspace : isSpace c = true
      · simp only [isSpace, Bool.or_eq_true, beq_iff_eq] at hspace
        rcases hspace with rfl | rfl <;> decide
      · rw [After, List.dropWhile_cons_of_neg hspace, Ends.cons_iff] at h
        simp only [isDelimiter, Bool.not_eq_false', Bool.or_eq_true, beq_iff_eq] at h
        rcases h with ((((rfl | rfl) | rfl) | rfl) | rfl) | rfl <;> decide

/-! ## Digits -/

/-- **The texts that spell a run of digits**: single underscores may stand between digits. -/
inductive SpellsDigits (isDigit : Char → Bool) : List Char → List Char → Prop where
  | one {c : Char} : isDigit c = true → SpellsDigits isDigit [c] [c]
  | cons {c : Char} {ds w : List Char} : isDigit c = true → SpellsDigits isDigit ds w →
      SpellsDigits isDigit (c :: ds) (c :: w)
  | underscore {c : Char} {ds w : List Char} : isDigit c = true → SpellsDigits isDigit ds w →
      SpellsDigits isDigit (c :: ds) (c :: '_' :: w)

section

variable {isDigit : Char → Bool} (hunderscore : isDigit '_' = false)
include hunderscore

theorem moreDigits_cons {c : Char} (hc : isDigit c = true) (s : List Char) :
    moreDigits isDigit (c :: s) = (c :: (moreDigits isDigit s).1, (moreDigits isDigit s).2) := by
  have hne : c ≠ '_' := by rintro rfl; rw [hunderscore] at hc; cases hc
  rw [moreDigits.eq_def]
  split <;> simp_all

omit hunderscore in
theorem moreDigits_underscore {c : Char} (hc : isDigit c = true) (s : List Char) :
    moreDigits isDigit ('_' :: c :: s) = (c :: (moreDigits isDigit s).1, (moreDigits isDigit s).2) := by
  simp [moreDigits, hc]

omit hunderscore in
theorem moreDigits_stop {rest : List Char} (hrest : Ends isDigit rest) (hend : Ends (· == '_') rest) :
    moreDigits isDigit rest = ([], rest) := by
  cases rest with
  | nil => rfl
  | cons c rest =>
      have hc : isDigit c = false := Ends.cons_iff.mp hrest
      have hne : c ≠ '_' := by simpa using hend
      rw [moreDigits.eq_def]
      split <;> simp_all

/-- A run continues the digits before it, with or without an underscore in between. -/
theorem moreDigits_spells {ds w rest : List Char} (h : SpellsDigits isDigit ds w) (hrest : Ends isDigit rest)
    (hend : Ends (· == '_') rest) :
    moreDigits isDigit (w ++ rest) = (ds, rest) ∧ moreDigits isDigit ('_' :: (w ++ rest)) = (ds, rest) := by
  -- the two halves go together: a run with an underscore needs the second for its rest
  induction h with
  | one hc =>
      have hstop := moreDigits_stop hrest hend
      simp [moreDigits_cons hunderscore hc, moreDigits_underscore hc, hstop]
  | cons hc _ ih => simp [moreDigits_cons hunderscore hc, moreDigits_underscore hc, ih.1]
  | underscore hc _ ih => simp [moreDigits_cons hunderscore hc, moreDigits_underscore hc, ih.2]

theorem digitRun_spells {ds w rest : List Char} (h : SpellsDigits isDigit ds w) (hrest : Ends isDigit rest)
    (hend : Ends (· == '_') rest) : digitRun isDigit (w ++ rest) = some (ds, rest) := by
  cases h with
  | one hc => simp [digitRun, hc, moreDigits_stop hrest hend]
  | cons hc h => simp [digitRun, hc, (moreDigits_spells hunderscore h hrest hend).1]
  | underscore hc h => simp [digitRun, hc, (moreDigits_spells hunderscore h hrest hend).2]

end

/-- A run begins with a digit. -/
theorem SpellsDigits.exists_cons {isDigit : Char → Bool} {ds w : List Char} (h : SpellsDigits isDigit ds w) :
    ∃ c ds' w', ds = c :: ds' ∧ w = c :: w' ∧ isDigit c = true := by
  cases h with
  | one hc | cons hc _ | underscore hc _ => exact ⟨_, _, _, rfl, rfl, hc⟩

/-- The digits at the front of a run end at an underscore or with the run. -/
theorem SpellsDigits.ends_dropWhile {isDigit p : Char → Bool} {ds w rest : List Char}
    (h : SpellsDigits isDigit ds w) (hunderscore : isDigit '_' = false) (hp : p '_' = false)
    (hrest : Ends isDigit rest) (hend : Ends p rest) : Ends p ((w ++ rest).dropWhile isDigit) := by
  induction h with
  | one hc =>
      rw [List.singleton_append, List.dropWhile_cons_of_pos hc, hrest.dropWhile_eq]
      exact hend
  | cons hc _ ih =>
      rw [List.cons_append, List.dropWhile_cons_of_pos hc]
      exact ih
  | underscore hc _ _ =>
      rw [List.cons_append, List.dropWhile_cons_of_pos hc, List.cons_append,
        List.dropWhile_cons_of_neg (by simp [hunderscore]), Ends.cons_iff]
      exact hp

/-- A fixed number of decimal digits with their value. -/
def Fixed (n value : Nat) (ds : List Char) : Prop :=
  ds.length = n ∧ (∀ d ∈ ds, d.isDigit = true) ∧ runValue 10 ds = value

theorem Fixed.read {n value : Nat} {ds : List Char} (h : Fixed n value ds) (rest : List Char) :
    fixedDigits n (ds ++ rest) = some (value, rest) := by
  obtain ⟨rfl, hdigits, rfl⟩ := h
  have hall : ds.all Char.isDigit = true := List.all_eq_true.mpr hdigits
  simp [fixedDigits, hall]

theorem fixedDigits_eq_some {n value : Nat} {s rest : List Char} (h : fixedDigits n s = some (value, rest)) :
    ∃ ds, Fixed n value ds ∧ s = ds ++ rest := by
  unfold fixedDigits at h
  dsimp only at h
  split at h
  · next hcond =>
      obtain ⟨rfl, rfl⟩ := Prod.mk.inj (Option.some.inj h)
      obtain ⟨hlength, hall⟩ := Bool.and_eq_true_iff.mp hcond
      exact ⟨_, ⟨of_decide_eq_true hlength, List.all_eq_true.mp hall, rfl⟩, (List.take_append_drop n s).symm⟩
  · cases h

/-! ## Integers -/

/-- The texts that spell a sign; `true` stands for a minus. -/
inductive SpellsSign : Bool → List Char → Prop where
  | absent : SpellsSign false []
  | plus : SpellsSign false ['+']
  | minus : SpellsSign true ['-']

/-- The texts that spell a whole number in decimal digits: a zero alone, or a run that does not start with
one. -/
inductive SpellsDecimal : List Char → List Char → Prop where
  | zero : SpellsDecimal ['0'] ['0']
  | run {ds w : List Char} : SpellsDigits Char.isDigit ds w → ds.head? ≠ some '0' → SpellsDecimal ds w

/-- **The texts that spell an integer**: in base 16, 8 or 2, or a decimal number with a sign; it fits 64 bits. -/
inductive SpellsInteger : Int → List Char → Prop where
  | hexadecimal {ds w : List Char} : SpellsDigits isHexDigit ds w → runValue 16 ds < signedBound →
      SpellsInteger (runValue 16 ds) ('0' :: 'x' :: w)
  | octal {ds w : List Char} : SpellsDigits (fun c => '0' ≤ c && c ≤ '7') ds w → runValue 8 ds < signedBound →
      SpellsInteger (runValue 8 ds) ('0' :: 'o' :: w)
  | binary {ds w : List Char} : SpellsDigits (fun c => c == '0' || c == '1') ds w →
      runValue 2 ds < signedBound → SpellsInteger (runValue 2 ds) ('0' :: 'b' :: w)
  | positive {sg ds w : List Char} : SpellsSign false sg → SpellsDecimal ds w → runValue 10 ds < signedBound →
      SpellsInteger (runValue 10 ds) (sg ++ w)
  | negative {sg ds w : List Char} : SpellsSign true sg → SpellsDecimal ds w → runValue 10 ds ≤ signedBound →
      SpellsInteger (-(runValue 10 ds : Int)) (sg ++ w)

theorem SpellsDecimal.exists_cons {ds w : List Char} (h : SpellsDecimal ds w) :
    ∃ c w', w = c :: w' ∧ c.isDigit = true := by
  cases h with
  | zero => exact ⟨_, _, rfl, rfl⟩
  | run h _ =>
      obtain ⟨c, _, w', -, rfl, hc⟩ := h.exists_cons
      exact ⟨c, w', rfl, hc⟩

theorem sign_spells {neg : Bool} {sg : List Char} (h : SpellsSign neg sg) {s : List Char}
    (hs : Ends (fun c => c == '+' || c == '-') s) : sign (sg ++ s) = (neg, s) := by
  cases h with
  | plus | minus => rfl
  | absent =>
      cases s with
      | nil => rfl
      | cons c s =>
          have hc : c ≠ '+' ∧ c ≠ '-' := by simpa using hs
          rw [List.nil_append, sign.eq_def]
          split <;> simp_all

/-- What may stand after a run of digits in a number. -/
structure Ended (rest : List Char) : Prop where
  digit : Ends Char.isDigit rest
  underscore : Ends (· == '_') rest

theorem decimalDigits_spells {ds w rest : List Char} (h : SpellsDecimal ds w) (hrest : Ended rest) :
    decimalDigits (w ++ rest) = some (ds, rest) := by
  cases h with
  | zero => rfl
  | run h hzero =>
      have hrun := digitRun_spells rfl h hrest.digit hrest.underscore
      obtain ⟨c, ds, w, rfl, rfl, -⟩ := h.exists_cons
      have hne : c ≠ '0' := fun heq => hzero (heq ▸ rfl)
      rw [List.cons_append] at hrun ⊢
      rw [decimalDigits.eq_def]
      split
      · simp_all
      · exact hrun

/-- The digits at the front of a decimal number end at an underscore or with the number. -/
theorem SpellsDecimal.ends_dropWhile {p : Char → Bool} {ds w rest : List Char} (h : SpellsDecimal ds w)
    (hp : p '_' = false) (hrest : Ends Char.isDigit rest) (hend : Ends p rest) :
    Ends p ((w ++ rest).dropWhile Char.isDigit) := by
  cases h with
  | zero => exact SpellsDigits.ends_dropWhile (.one rfl) rfl hp hrest hend
  | run h _ => exact h.ends_dropWhile rfl hp hrest hend

theorem After.ended {rest : List Char} (h : After rest) : Ended rest where
  digit := h.ends rfl
  underscore := h.ends rfl

theorem basedInteger_spells {base : Nat} {isDigit : Char → Bool} {ds w rest : List Char}
    (hunderscore : isDigit '_' = false) (h : SpellsDigits isDigit ds w)
    (hbound : runValue base ds < signedBound) (hrest : Ends isDigit rest) (hend : Ends (· == '_') rest) :
    basedInteger base isDigit (w ++ rest) = some ((runValue base ds : Int), rest) := by
  simp [basedInteger, digitRun_spells hunderscore h hrest hend, hbound]

/-- Where no base is given the integer is read as a decimal one. -/
theorem integer_decimal {s : List Char} (h : ∀ c, s.head? = some '0' → s.tail.head? = some c →
    c ≠ 'x' ∧ c ≠ 'o' ∧ c ≠ 'b') :
    integer s = (do
      let (negative, s) := sign s
      let (ds, rest) ← decimalDigits s
      let n := runValue 10 ds
      if negative then if n ≤ signedBound then return (-(n : Int), rest) else none
      else if n < signedBound then return (n, rest)
      else none) := by
  unfold integer
  split
  · exact absurd rfl (h _ rfl rfl).1
  · exact absurd rfl (h _ rfl rfl).2.1
  · exact absurd rfl (h _ rfl rfl).2.2
  · rfl

/-- After a sign and the digits of a decimal number no base is given. -/
theorem not_based {neg : Bool} {sg ds w rest : List Char} (hsg : SpellsSign neg sg) (h : SpellsDecimal ds w)
    (hrest : Ends (fun c => c == 'x' || c == 'o' || c == 'b') rest) (c : Char)
    (hzero : (sg ++ (w ++ rest)).head? = some '0') (hc : (sg ++ (w ++ rest)).tail.head? = some c) :
    c ≠ 'x' ∧ c ≠ 'o' ∧ c ≠ 'b' := by
  cases hsg with
  | plus | minus => cases hzero
  | absent =>
      cases h with
      | zero =>
          have hclass := hrest c hc
          simpa [and_assoc] using hclass
      | run h hne =>
          obtain ⟨d, ds, w, rfl, rfl, -⟩ := h.exists_cons
          exact absurd hzero hne

theorem SpellsDecimal.ends_sign {ds w : List Char} (h : SpellsDecimal ds w) (rest : List Char) :
    Ends (fun c => c == '+' || c == '-') (w ++ rest) := by
  obtain ⟨c, w, rfl, hc⟩ := h.exists_cons
  simp [ne_of_class hc (d := '+') rfl, ne_of_class hc (d := '-') rfl]

theorem integer_spells {i : Int} {w rest : List Char} (h : SpellsInteger i w) (hrest : After rest) :
    integer (w ++ rest) = some (i, rest) := by
  have hunderscore := hrest.ended.underscore
  have hbase : Ends (fun c => c == 'x' || c == 'o' || c == 'b') rest := hrest.ends rfl
  cases h with
  | hexadecimal h hbound => exact basedInteger_spells rfl h hbound (hrest.ends rfl) hunderscore
  | octal h hbound => exact basedInteger_spells rfl h hbound (hrest.ends rfl) hunderscore
  | binary h hbound => exact basedInteger_spells rfl h hbound (hrest.ends rfl) hunderscore
  | positive hsg h hbound =>
      rw [List.append_assoc, integer_decimal (not_based hsg h hbase), sign_spells hsg (h.ends_sign rest)]
      simp [decimalDigits_spells h hrest.ended, hbound]
  | negative hsg h hbound =>
      rw [List.append_assoc, integer_decimal (not_based hsg h hbase), sign_spells hsg (h.ends_sign rest)]
      simp [decimalDigits_spells h hrest.ended, hbound]

/-! ## Floats -/

/-- The texts that spell the digits after a point, if there are any. -/
inductive SpellsFraction : List Char → List Char → Prop where
  | absent : SpellsFraction [] []
  | digits {ds w : List Char} : SpellsDigits Char.isDigit ds w → SpellsFraction ds ('.' :: w)

/-- The texts that spell an exponent, if there is one. -/
inductive SpellsExponent : Int → List Char → Prop where
  | absent : SpellsExponent 0 []
  | up {e : Char} {sg ds w : List Char} : e = 'e' ∨ e = 'E' → SpellsSign false sg →
      SpellsDigits Char.isDigit ds w → SpellsExponent (runValue 10 ds) (e :: (sg ++ w))
  | down {e : Char} {sg ds w : List Char} : e = 'e' ∨ e = 'E' → SpellsSign true sg →
      SpellsDigits Char.isDigit ds w → SpellsExponent (-(runValue 10 ds : Int)) (e :: (sg ++ w))

/-- **The texts that spell a float**: an infinity or what is no number, or a decimal number with digits after a
point, an exponent or both, which is finite if it is positive. -/
inductive SpellsFloat : List Char → Prop where
  | special {neg : Bool} {sg w : List Char} : SpellsSign neg sg → w ∈ [['i', 'n', 'f'], ['n', 'a', 'n']] →
      SpellsFloat (sg ++ w)
  | number {neg : Bool} {sg whole w frac f x : List Char} {e : Int} : SpellsSign neg sg →
      SpellsDecimal whole w → SpellsFraction frac f → SpellsExponent e x → f ≠ [] ∨ x ≠ [] →
      neg = true ∨ isTooLarge (runValue 10 (whole ++ frac)) (e - frac.length) = false →
      SpellsFloat (sg ++ (w ++ (f ++ x)))

theorem specialFloat_eq_none {s : List Char} (h : Ends (fun c => c == 'i' || c == 'n') s) :
    specialFloat s = none := by
  unfold specialFloat
  split
  · cases Ends.cons_iff.mp h
  · cases Ends.cons_iff.mp h
  · rfl

theorem fraction?_eq_none {s : List Char} (h : Ends (· == '.') s) : fraction? s = none := by
  unfold fraction?
  split
  · cases Ends.cons_iff.mp h
  · rfl

theorem exponent?_eq_none {s : List Char} (h : Ends (fun c => c == 'e' || c == 'E') s) : exponent? s = none := by
  cases s with
  | nil => rfl
  | cons c s => simp only [exponent?, Ends.cons_iff.mp h, Bool.false_eq_true, if_false]

theorem exponent?_spells {e : Char} (he : e = 'e' ∨ e = 'E') {neg : Bool} {sg ds w rest : List Char}
    (hsg : SpellsSign neg sg) (h : SpellsDigits Char.isDigit ds w) (hrest : Ended rest) :
    exponent? (e :: (sg ++ w) ++ rest) = some (neg, ds, rest) := by
  have hsign : Ends (fun c => c == '+' || c == '-') (w ++ rest) := by
    obtain ⟨c, _, w, -, rfl, hc⟩ := h.exists_cons
    simp [ne_of_class hc (d := '+') rfl, ne_of_class hc (d := '-') rfl]
  have hclass : (e == 'e' || e == 'E') = true := by simpa using he
  simp only [exponent?, List.cons_append, hclass, if_true, List.append_assoc, sign_spells hsg hsign,
    digitRun_spells rfl h hrest.digit hrest.underscore, Option.map_some]

/-- What may stand after a run of digits that an exponent, or what follows a value, ends. -/
theorem SpellsExponent.ends {e : Int} {x rest : List Char} (h : SpellsExponent e x) (hrest : After rest)
    {p : Char → Bool} (hp : ['e', 'E', ' ', '\t', '#', '\n', '\r', ',', ']', '\x7d'].any p = false) :
    Ends p (x ++ rest) := by
  rw [List.any_cons, List.any_cons, Bool.or_eq_false_iff, Bool.or_eq_false_iff] at hp
  obtain ⟨hsmall, hlarge, hp⟩ := hp
  cases h with
  | absent => exact hrest.ends hp
  | up he _ _ | down he _ _ =>
      rcases he with rfl | rfl
      · exact Ends.cons_iff.mpr hsmall
      · exact Ends.cons_iff.mpr hlarge

theorem SpellsFraction.ends {frac f rest : List Char} (h : SpellsFraction frac f) {p : Char → Bool}
    (hp : p '.' = false) (hrest : Ends p rest) : Ends p (f ++ rest) := by
  cases h with
  | absent => exact hrest
  | digits _ => exact Ends.cons_iff.mpr hp

theorem SpellsExponent.read {e : Int} {x rest : List Char} (h : SpellsExponent e x) (hrest : After rest) :
    (x = [] ∧ e = 0 ∧ exponent? rest = none) ∨
    ∃ down ds, exponent? (x ++ rest) = some (down, ds, rest) ∧
      e = if down then -(runValue 10 ds : Int) else runValue 10 ds := by
  cases h with
  | absent => exact .inl ⟨rfl, rfl, exponent?_eq_none (hrest.ends rfl)⟩
  | up he hsg h => exact .inr ⟨_, _, exponent?_spells he hsg h hrest.ended, rfl⟩
  | down he hsg h => exact .inr ⟨_, _, exponent?_spells he hsg h hrest.ended, rfl⟩

theorem SpellsDecimal.ends_special {ds w : List Char} (h : SpellsDecimal ds w) (rest : List Char) :
    Ends (fun c => c == 'i' || c == 'n') (w ++ rest) := by
  obtain ⟨c, w, rfl, hc⟩ := h.exists_cons
  simp [ne_of_class hc (d := 'i') rfl, ne_of_class hc (d := 'n') rfl]

/-- **The texts of floats** are read as floats. -/
theorem float_spells {w rest : List Char} (h : SpellsFloat w) (hrest : After rest) :
    float (w ++ rest) = some rest := by
  cases h with
  | special hsg hw =>
      simp only [List.mem_cons, List.not_mem_nil, or_false] at hw
      rcases hw with rfl | rfl <;>
        simp [float, List.append_assoc, sign_spells hsg, specialFloat]
  | @number neg sg whole w frac f x e hsg hwhole hfrac hexp hone hfinite =>
      -- each part ends where the next one begins, so they are read one after the other
      have hx : Ended (x ++ rest) := ⟨hexp.ends hrest rfl, hexp.ends hrest rfl⟩
      have hf : Ended (f ++ (x ++ rest)) := ⟨hfrac.ends rfl hx.digit, hfrac.ends rfl hx.underscore⟩
      have hdecimal := decimalDigits_spells hwhole hf
      have hspecial := specialFloat_eq_none (hwhole.ends_special (f ++ (x ++ rest)))
      have hsign := sign_spells hsg (hwhole.ends_sign (f ++ (x ++ rest)))
      have hshift : (!neg && isTooLarge (runValue 10 (whole ++ frac)) (e - frac.length)) = false := by
        rcases hfinite with rfl | hfinite
        · rfl
        · rw [hfinite, Bool.and_false]
      cases hfrac with
      | absent =>
          have hpoint : fraction? (x ++ rest) = none := fraction?_eq_none (hexp.ends hrest rfl)
          rcases hexp.read hrest with ⟨rfl, -, -⟩ | ⟨down, ds, hexponent, rfl⟩
          · exact absurd hone (by simp)
          · simp_all [float]
      | digits h =>
          have hpoint : fraction? ('.' :: (_ ++ (x ++ rest))) = some (frac, x ++ rest) :=
            digitRun_spells rfl h hx.digit hx.underscore
          rcases hexp.read hrest with ⟨rfl, rfl, hexponent⟩ | ⟨down, ds, hexponent, rfl⟩
          · simp_all [float]
          · simp_all [float]

/-- A decimal number that nothing else follows is no float. -/
theorem float_eq_none {neg : Bool} {sg ds s r : List Char} (hsg : SpellsSign neg sg)
    (hsign : Ends (fun c => c == '+' || c == '-') s) (hspecial : Ends (fun c => c == 'i' || c == 'n') s)
    (hdecimal : decimalDigits s = some (ds, r)) (hr : Ends (fun c => c == '.' || c == 'e' || c == 'E') r) :
    float (sg ++ s) = none := by
  have hfraction : fraction? r = none := by
    refine fraction?_eq_none ?_
    intro c hc
    have hclass := hr c hc
    simp only [Bool.or_eq_false_iff] at hclass
    exact hclass.1.1
  have hexponent : exponent? r = none := by
    refine exponent?_eq_none ?_
    intro c hc
    have hclass := hr c hc
    simp only [Bool.or_eq_false_iff] at hclass ⊢
    exact ⟨hclass.1.2, hclass.2⟩
  simp [float, sign_spells hsg hsign, specialFloat_eq_none hspecial, hdecimal, hfraction, hexponent]

theorem float_based {c : Char} (hc : (c == '.' || c == 'e' || c == 'E') = false) (s : List Char) :
    float ('0' :: c :: s) = none :=
  float_eq_none .absent (Ends.cons_iff.mpr rfl) (Ends.cons_iff.mpr rfl) rfl (Ends.cons_iff.mpr hc)

/-- No text of an integer is read as a float. -/
theorem float_of_integer {i : Int} {w rest : List Char} (h : SpellsInteger i w) (hrest : After rest) :
    float (w ++ rest) = none := by
  cases h with
  | hexadecimal _ _ | octal _ _ | binary _ _ =>
      exact float_based (by decide) _
  | positive hsg h _ | negative hsg h _ =>
      rw [List.append_assoc]
      exact float_eq_none hsg (h.ends_sign rest) (h.ends_special rest) (decimalDigits_spells h hrest.ended)
        (hrest.ends rfl)

/-! ## Dates -/

/-- The texts that spell a day of the calendar. -/
def SpellsDate (w : List Char) : Prop :=
  ∃ y m d year month day, Fixed 4 year y ∧ Fixed 2 month m ∧ Fixed 2 day d ∧ 1 ≤ month ∧ month ≤ 12 ∧
    1 ≤ day ∧ day ≤ daysIn year month ∧ w = y ++ '-' :: (m ++ '-' :: d)

/-- The texts that spell hours and minutes. -/
def SpellsHourMinute (w : List Char) : Prop :=
  ∃ h m hour minute, Fixed 2 hour h ∧ Fixed 2 minute m ∧ hour ≤ 23 ∧ minute ≤ 59 ∧ w = h ++ ':' :: m

/-- The texts that spell a time of day: with seconds, and maybe digits after a point. -/
def SpellsTime (w : List Char) : Prop :=
  ∃ hm s f second, SpellsHourMinute hm ∧ Fixed 2 second s ∧ second ≤ 60 ∧
    (f = [] ∨ ∃ ds, ds ≠ [] ∧ (∀ d ∈ ds, d.isDigit = true) ∧ f = '.' :: ds) ∧ w = hm ++ ':' :: (s ++ f)

/-- The texts that spell an offset from universal time, if there is one. -/
inductive SpellsOffset : List Char → Prop where
  | absent : SpellsOffset []
  | zero {c : Char} : c = 'Z' ∨ c = 'z' → SpellsOffset [c]
  | hours {c : Char} {w : List Char} : c = '+' ∨ c = '-' → SpellsHourMinute w → SpellsOffset (c :: w)

/-- **The texts that spell a date, a time or both.** -/
inductive SpellsDateTime : List Char → Prop where
  | date {w : List Char} : SpellsDate w → SpellsDateTime w
  | time {w : List Char} : SpellsTime w → SpellsDateTime w
  | both {d t o : List Char} {c : Char} : SpellsDate d → c = 'T' ∨ c = 't' ∨ c = ' ' → SpellsTime t →
      SpellsOffset o → SpellsDateTime (d ++ c :: (t ++ o))

/-- The text begins like a date or a time: digits and the character after them. -/
def Dated (c : Char) (s : List Char) : Prop :=
  ∃ ds r, ds ≠ [] ∧ (∀ d ∈ ds, d.isDigit = true) ∧ s = ds ++ c :: r

namespace Dated

variable {c : Char} {s : List Char}

theorem not_ends (h : Dated c s) : ¬Ends Char.isDigit s := by
  obtain ⟨ds, r, hne, hds, rfl⟩ := h
  obtain ⟨d, ds, rfl⟩ := List.exists_cons_of_ne_nil hne
  intro hends
  rw [List.cons_append, Ends.cons_iff, hds d (.head _)] at hends
  cases hends

/-- What is after the digits can be seen. -/
theorem head?_dropWhile (h : Dated c s) (hc : c.isDigit = false) :
    (s.dropWhile Char.isDigit).head? = some c := by
  obtain ⟨ds, r, -, hds, rfl⟩ := h
  rw [(Ends.cons_iff.mpr hc).dropWhile_append hds]
  rfl

end Dated

theorem Fixed.dated {n value : Nat} {ds : List Char} (h : Fixed n value ds) (hn : n ≠ 0) (c : Char)
    (r : List Char) : Dated c (ds ++ c :: r) := by
  refine ⟨ds, r, ?_, h.2.1, rfl⟩
  rintro rfl
  exact hn h.1.symm

theorem exactly_eq_some {c : Char} {s rest : List Char} (h : exactly c s = some rest) : s = c :: rest := by
  cases s with
  | nil => cases h
  | cons d s =>
      have hif : (if c = d then some s else none) = some rest := h
      obtain ⟨hcond, hsome⟩ := Option.ite_none_right_eq_some.mp hif
      rw [hcond, Option.some.inj hsome]

theorem exactly_cons (c : Char) (rest : List Char) : exactly c (c :: rest) = some rest := if_pos rfl

theorem dated_of_date {s rest : List Char} (h : date s = some rest) : Dated '-' s := by
  obtain ⟨⟨year, s'⟩, hyear, h⟩ := Option.bind_eq_some_iff.mp h
  obtain ⟨s'', hhyphen, -⟩ := Option.bind_eq_some_iff.mp h
  obtain ⟨ds, hds, rfl⟩ := fixedDigits_eq_some hyear
  obtain rfl := exactly_eq_some hhyphen
  exact hds.dated (by decide) '-' s''

theorem dated_of_time {s rest : List Char} (h : time s = some rest) : Dated ':' s := by
  obtain ⟨s', hhm, -⟩ := Option.bind_eq_some_iff.mp h
  obtain ⟨⟨hour, s'⟩, hhour, h⟩ := Option.bind_eq_some_iff.mp hhm
  obtain ⟨s'', hcolon, -⟩ := Option.bind_eq_some_iff.mp h
  obtain ⟨ds, hds, rfl⟩ := fixedDigits_eq_some hhour
  obtain rfl := exactly_eq_some hcolon
  exact hds.dated (by decide) ':' s''

theorem date_eq_none {s : List Char} (h : ¬Dated '-' s) : date s = none :=
  Option.eq_none_iff_forall_ne_some.mpr fun _ hrest => h (dated_of_date hrest)

theorem time_eq_none {s : List Char} (h : ¬Dated ':' s) : time s = none :=
  Option.eq_none_iff_forall_ne_some.mpr fun _ hrest => h (dated_of_time hrest)

/-- **Only what begins like a date or a time** is read as one. -/
theorem dateTime_eq_none {s : List Char} (hdate : ¬Dated '-' s) (htime : ¬Dated ':' s) : dateTime s = none := by
  rw [dateTime, date_eq_none hdate, time_eq_none htime]

theorem date_spells {w : List Char} (h : SpellsDate w) (rest : List Char) : date (w ++ rest) = some rest := by
  obtain ⟨y, m, d, year, month, day, hy, hm, hd, hmonth, hmonth', hday, hday', rfl⟩ := h
  simp [date, hy.read, hm.read, hd.read, exactly_cons, hmonth, hmonth', hday, hday']

theorem hourMinute_spells {w : List Char} (h : SpellsHourMinute w) (rest : List Char) :
    hourMinute (w ++ rest) = some rest := by
  obtain ⟨h, m, hour, minute, hh, hm, hhour, hminute, rfl⟩ := h
  simp [hourMinute, hh.read, hm.read, exactly_cons, hhour, hminute]

theorem time_spells {w rest : List Char} (h : SpellsTime w) (hdigit : Ends Char.isDigit rest)
    (hpoint : Ends (· == '.') rest) : time (w ++ rest) = some rest := by
  obtain ⟨hm, s, f, second, hhm, hs, hsecond, hf, rfl⟩ := h
  have hbound : ¬60 < second := Nat.not_lt.mpr hsecond
  simp only [time, hourMinute_spells hhm, exactly_cons, hs.read, hbound, List.append_assoc, List.cons_append,
    Option.bind_eq_bind, Option.bind_some, if_false]
  rcases hf with rfl | ⟨ds, hne, hds, rfl⟩
  · rw [List.nil_append]
    split
    · cases Ends.cons_iff.mp hpoint
    · rfl
  · obtain ⟨d, ds, rfl⟩ := List.exists_cons_of_ne_nil hne
    obtain ⟨hd, hds⟩ := List.forall_mem_cons.mp hds
    show (if d.isDigit then some ((ds ++ rest).dropWhile Char.isDigit) else _) = some rest
    rw [if_pos hd, hdigit.dropWhile_append hds]

theorem SpellsTime.dated {w : List Char} (h : SpellsTime w) (rest : List Char) : Dated ':' (w ++ rest) := by
  obtain ⟨_, s, f, second, ⟨h, m, hour, minute, hh, -, -, -, rfl⟩, -, -, -, rfl⟩ := h
  simp only [List.append_assoc, List.cons_append]
  exact hh.dated (by decide) ':' _

theorem dropOffset_spells {o rest : List Char} (h : SpellsOffset o) (hrest : After rest) :
    dropOffset (o ++ rest) = rest := by
  cases h with
  | absent =>
      have hends : Ends (fun c => c == 'Z' || c == 'z' || c == '+' || c == '-') rest := hrest.ends rfl
      cases rest with
      | nil => rfl
      | cons c rest =>
          have hc := Ends.cons_iff.mp hends
          simp only [Bool.or_eq_false_iff] at hc
          simp [dropOffset, hc]
  | zero hc => rcases hc with rfl | rfl <;> rfl
  | hours hc h => rcases hc with rfl | rfl <;> simp [dropOffset, hourMinute_spells h]

/-- After an offset, or what may follow a value, a time has ended. -/
theorem SpellsOffset.ends {o rest : List Char} (h : SpellsOffset o) (hrest : After rest) :
    Ends Char.isDigit (o ++ rest) ∧ Ends (· == '.') (o ++ rest) := by
  cases h with
  | absent => exact ⟨hrest.ends rfl, hrest.ends rfl⟩
  | zero hc | hours hc _ => rcases hc with rfl | rfl <;> exact ⟨Ends.cons_iff.mpr rfl, Ends.cons_iff.mpr rfl⟩

/-- After a blank a value may have ended too. -/
theorem After.of_blank {rest : List Char} (h : After (' ' :: rest)) : After rest := h

/-- **The texts of dates and times** are read as such. -/
theorem dateTime_spells {w rest : List Char} (h : SpellsDateTime w) (hrest : After rest) :
    dateTime (w ++ rest) = some rest := by
  cases h with
  | date h =>
      rw [dateTime, date_spells h]
      cases rest with
      | nil => rfl
      | cons c rest =>
          have hends : Ends (fun c => c == 'T' || c == 't') (c :: rest) := hrest.ends rfl
          have hletter := Ends.cons_iff.mp hends
          by_cases hspace : c = ' '
          · -- no time comes after the blank
            subst hspace
            have hdigit : Ends Char.isDigit rest := hrest.of_blank.ends rfl
            have hnone : time rest = none := time_eq_none fun hdated => hdated.not_ends hdigit
            simp [hnone]
          · simp only [Bool.or_eq_false_iff] at hletter
            simp [hletter, hspace]
  | time h =>
      -- the digits at the front end at a colon, those of a date at a hyphen
      have hdate : date (w ++ rest) = none := by
        refine date_eq_none fun hdated => ?_
        have hhyphen := hdated.head?_dropWhile rfl
        rw [(h.dated rest).head?_dropWhile rfl] at hhyphen
        cases hhyphen
      rw [dateTime, hdate]
      exact time_spells h (hrest.ends rfl) (hrest.ends rfl)
  | @both d t o c hd hc ht ho =>
      obtain ⟨hdigit, hpoint⟩ := ho.ends hrest
      have htime := time_spells ht hdigit hpoint
      have hclass : (c == 'T' || c == 't' || c == ' ') = true := by simpa [or_assoc] using hc
      simp only [dateTime, List.append_assoc, List.cons_append, date_spells hd, hclass, if_true, htime,
        dropOffset_spells ho hrest]

/-! ## Scalars -/

/-- **The texts that spell a value without quotes or brackets.** -/
inductive SpellsPlain : Value → List Char → Prop where
  | yes : SpellsPlain (.boolean true) ['t', 'r', 'u', 'e']
  | no : SpellsPlain (.boolean false) ['f', 'a', 'l', 's', 'e']
  | integer {i : Int} {w : List Char} : SpellsInteger i w → SpellsPlain (.integer i) w
  | float {w : List Char} : SpellsFloat w → SpellsPlain .float w
  | dateTime {w : List Char} : SpellsDateTime w → SpellsPlain .dateTime w

/-- A decimal number with a sign, and what may follow it in a number or after it, begins no date. -/
theorem not_dated_decimal {neg : Bool} {sg ds w rest : List Char} (hsg : SpellsSign neg sg)
    (h : SpellsDecimal ds w) (hdigit : Ends Char.isDigit rest) {c : Char} (hc : c ∈ ['-', ':'])
    (hrest : Ends (· == c) rest) : ¬Dated c (sg ++ (w ++ rest)) := by
  intro hdated
  have hclass : c.isDigit = false ∧ ('_' == c) = false := by
    simp only [List.mem_cons, List.not_mem_nil, or_false] at hc
    rcases hc with rfl | rfl <;> decide
  cases hsg with
  | plus | minus => exact hdated.not_ends (Ends.cons_iff.mpr rfl)
  | absent =>
      -- after the digits at the front comes an underscore or what follows the number
      have hhead := hdated.head?_dropWhile hclass.1
      have hends := h.ends_dropWhile (p := (· == c)) hclass.2 hdigit hrest c hhead
      simp at hends

theorem dateTime_of_integer {i : Int} {w rest : List Char} (h : SpellsInteger i w) (hrest : After rest) :
    dateTime (w ++ rest) = none := by
  -- behind the zero at the front stands the letter of a base
  have hbased : ∀ {c b : Char} {s : List Char}, b.isDigit = false → c.isDigit = false → b ≠ c →
      ¬Dated c ('0' :: b :: s) := by
    intro c b s hb hc hne hdated
    have hhead := hdated.head?_dropWhile hc
    rw [List.dropWhile_cons_of_pos rfl, List.dropWhile_cons_of_neg (by simp [hb])] at hhead
    exact hne (Option.some.inj hhead)
  cases h with
  | hexadecimal _ _ | octal _ _ | binary _ _ =>
      exact dateTime_eq_none (hbased rfl rfl (by decide)) (hbased rfl rfl (by decide))
  | positive hsg h _ | negative hsg h _ =>
      rw [List.append_assoc]
      exact dateTime_eq_none
        (not_dated_decimal hsg h hrest.ended.digit (by decide) (hrest.ends rfl))
        (not_dated_decimal hsg h hrest.ended.digit (by decide) (hrest.ends rfl))

theorem dateTime_of_float {w rest : List Char} (h : SpellsFloat w) (hrest : After rest) :
    dateTime (w ++ rest) = none := by
  cases h with
  | @special neg sg w hsg hw =>
      have hends : Ends Char.isDigit (sg ++ w ++ rest) := by
        simp only [List.mem_cons, List.not_mem_nil, or_false] at hw
        cases hsg <;> rcases hw with rfl | rfl <;> exact Ends.cons_iff.mpr rfl
      exact dateTime_eq_none (fun hdated => hdated.not_ends hends) (fun hdated => hdated.not_ends hends)
  | number hsg hwhole hfrac hexp =>
      simp only [List.append_assoc]
      have hdigit : Ends Char.isDigit (_ ++ (_ ++ rest)) := hfrac.ends rfl (hexp.ends hrest rfl)
      exact dateTime_eq_none
        (not_dated_decimal hsg hwhole hdigit (by decide) (hfrac.ends rfl (hexp.ends hrest rfl)))
        (not_dated_decimal hsg hwhole hdigit (by decide) (hfrac.ends rfl (hexp.ends hrest rfl)))

/-- A scalar that is no truth value begins with none of their letters. -/
theorem plainScalar_eq {s : List Char} (h : Ends (fun c => c == 't' || c == 'f') s) :
    plainScalar s =
      match dateTime s with
      | some rest => some (.dateTime, rest)
      | none =>
          match float s with
          | some rest => some (.float, rest)
          | none => (integer s).map fun (i, rest) => (.integer i, rest) := by
  unfold plainScalar
  split
  · cases Ends.cons_iff.mp h
  · cases Ends.cons_iff.mp h
  · rfl

/-- The characters that numbers and dates begin with. -/
def isNumeric (c : Char) : Bool := c.isDigit || c == '+' || c == '-' || c == 'i' || c == 'n'

/-- The text begins with such a character. -/
def Numeric (w : List Char) : Prop := ∃ c w', w = c :: w' ∧ isNumeric c = true

theorem Numeric.of_isDigit {c : Char} (hc : c.isDigit = true) (w : List Char) : Numeric (c :: w) :=
  ⟨c, w, rfl, by simp [isNumeric, hc]⟩

theorem Numeric.append {w : List Char} (h : Numeric w) (s : List Char) : Numeric (w ++ s) := by
  obtain ⟨c, w, rfl, hc⟩ := h
  exact ⟨c, w ++ s, rfl, hc⟩

theorem SpellsSign.numeric {neg : Bool} {sg w : List Char} (hsg : SpellsSign neg sg) (h : Numeric w) :
    Numeric (sg ++ w) := by
  cases hsg with
  | absent => exact h
  | plus | minus => exact ⟨_, _, rfl, rfl⟩

theorem SpellsDecimal.numeric {ds w : List Char} (h : SpellsDecimal ds w) : Numeric w := by
  obtain ⟨c, w, rfl, hc⟩ := h.exists_cons
  exact .of_isDigit hc w

theorem Fixed.numeric {n value : Nat} {ds : List Char} (h : Fixed n value ds) (hn : n ≠ 0) (s : List Char) :
    Numeric (ds ++ s) := by
  obtain ⟨hlength, hds, -⟩ := h
  cases ds with
  | nil => exact absurd hlength.symm hn
  | cons d ds => exact .of_isDigit (hds d (.head _)) (ds ++ s)

theorem SpellsInteger.numeric {i : Int} {w : List Char} (h : SpellsInteger i w) : Numeric w := by
  cases h with
  | hexadecimal _ _ | octal _ _ | binary _ _ => exact .of_isDigit rfl _
  | positive hsg h _ | negative hsg h _ => exact hsg.numeric h.numeric

theorem SpellsFloat.numeric {w : List Char} (h : SpellsFloat w) : Numeric w := by
  cases h with
  | special hsg hw =>
      simp only [List.mem_cons, List.not_mem_nil, or_false] at hw
      rcases hw with rfl | rfl <;> exact hsg.numeric ⟨_, _, rfl, rfl⟩
  | number hsg h _ _ _ _ => exact hsg.numeric (h.numeric.append _)

theorem SpellsDateTime.numeric {w : List Char} (h : SpellsDateTime w) : Numeric w := by
  cases h with
  | date h =>
      obtain ⟨y, m, d, year, month, day, hy, -, -, -, -, -, -, rfl⟩ := h
      exact hy.numeric (by decide) _
  | time h =>
      obtain ⟨_, s, f, second, ⟨h, m, hour, minute, hh, -, -, -, rfl⟩, -, -, -, rfl⟩ := h
      exact (hh.numeric (by decide) _).append _
  | both h _ _ _ =>
      obtain ⟨y, m, d, year, month, day, hy, -, -, -, -, -, -, rfl⟩ := h
      exact (hy.numeric (by decide) _).append _

/-- Numbers and dates begin with no letter of a truth value. -/
theorem Numeric.ends {w : List Char} (h : Numeric w) (rest : List Char) :
    Ends (fun c => c == 't' || c == 'f') (w ++ rest) := by
  obtain ⟨c, w, rfl, hc⟩ := h
  rw [List.cons_append, Ends.cons_iff]
  by_contra hletter
  simp only [Bool.not_eq_false, Bool.or_eq_true, beq_iff_eq] at hletter
  rcases hletter with rfl | rfl <;> cases hc

/-- **Scalars without quotes** are read as what they spell. -/
theorem plainScalar_spells {v : Value} {w rest : List Char} (h : SpellsPlain v w) (hrest : After rest) :
    plainScalar (w ++ rest) = some (v, rest) := by
  cases h with
  | yes | no => rfl
  -- dates are tried before floats, and floats before integers
  | integer h =>
      rw [plainScalar_eq (h.numeric.ends rest), dateTime_of_integer h hrest, float_of_integer h hrest,
        integer_spells h hrest]
      rfl
  | float h => rw [plainScalar_eq (h.numeric.ends rest), dateTime_of_float h hrest, float_spells h hrest]
  | dateTime h => rw [plainScalar_eq (h.numeric.ends rest), dateTime_spells h hrest]

end LayerLint.Toml
