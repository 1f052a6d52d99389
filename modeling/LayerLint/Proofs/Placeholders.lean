import LayerLint.Proofs.Messages

/-!
# `Proofs.Placeholders` — filling a format is simultaneous replacement

A format is filled from the left, and after an opening brace that stands for nothing the search goes on with the
very next character. No placeholder is lost in this way and none is made up: an index holds no braces, so two
placeholders never overlap, and what an argument brings in is behind the place where the search goes on.

So the result can be said without the search. There is one way to cut a format into single characters and
placeholders such that every placeholder is cut out, wherever it stands; it depends on the format and on the
number of arguments alone; and filling puts the arguments in the places of the placeholders.

## Contents
- **Indices.** `NamesIndex`, the texts that name an index; `index?_eq_some_iff`.
- **Cuts.** `Piece`, `Divides`; a format is cut in one way only (`Divides.unique`).
- **Result.** `fill_replaces_placeholders`.
-/

namespace LayerLint.Message

/-! ## Indices -/

/-- Decimal digits of a number that fits a word; zeros may stand in front. -/
structure Decimal (ds : List Char) (i : Nat) : Prop where
  nonempty : ds ≠ []
  digits : ∀ c ∈ ds, c.isDigit = true
  value : Nat.ofDigitChars 10 ds 0 = i
  bound : i < wordBound

/-- **A text names an index** by its decimal digits, or by a plus sign and the digits. -/
def NamesIndex (s : List Char) (i : Nat) : Prop := Decimal s i ∨ ∃ ds, s = '+' :: ds ∧ Decimal ds i

theorem digits?_eq_some_iff {ds : List Char} {i : Nat} : digits? ds = some i ↔ Decimal ds i := by
  have hvalue : ds.foldl (fun n c => n * 10 + (c.toNat - 48)) 0 = Nat.ofDigitChars 10 ds 0 := by
    rw [Nat.ofDigitChars_eq_foldl]
    congr 1
    funext n c
    rw [Nat.mul_comm]
    rfl
  unfold digits?
  rw [hvalue]
  constructor
  · intro h
    by_cases hform : (ds.isEmpty || !ds.all Char.isDigit) = true
    · rw [if_pos hform] at h
      cases h
    · rw [if_neg hform] at h
      rw [Bool.or_eq_true, not_or, List.isEmpty_iff, Bool.not_eq_true', Bool.not_eq_false, List.all_eq_true] at hform
      by_cases hbound : Nat.ofDigitChars 10 ds 0 < wordBound
      · rw [if_pos hbound] at h
        obtain rfl := Option.some.inj h
        exact ⟨hform.1, hform.2, rfl, hbound⟩
      · rw [if_neg hbound] at h
        cases h
  · rintro ⟨hnonempty, hdigits, rfl, hbound⟩
    have hform : ¬(ds.isEmpty || !ds.all Char.isDigit) = true := by
      rw [Bool.or_eq_true, not_or, List.isEmpty_iff, Bool.not_eq_true', Bool.not_eq_false, List.all_eq_true]
      exact ⟨hnonempty, hdigits⟩
    rw [if_neg hform, if_pos hbound]

/-- **The texts that are read as an index are those that name it.** -/
theorem index?_eq_some_iff {s : List Char} {i : Nat} : index? s = some i ↔ NamesIndex s i := by
  by_cases hsign : ∃ ds, s = '+' :: ds
  · obtain ⟨ds, rfl⟩ := hsign
    have hplain : ¬Decimal ('+' :: ds) i := fun h => absurd (h.digits '+' List.mem_cons_self) (by decide)
    show digits? ds = some i ↔ _
    rw [digits?_eq_some_iff, NamesIndex, or_iff_right hplain]
    exact ⟨fun h => ⟨ds, rfl, h⟩, fun ⟨_, heq, h⟩ => (List.cons.inj heq).2 ▸ h⟩
  · have hread : index? s = digits? s := by
      unfold index?
      split
      · next ds => exact absurd ⟨ds, rfl⟩ hsign
      · rfl
    rw [hread, digits?_eq_some_iff, NamesIndex, or_iff_left fun ⟨ds, heq, _⟩ => hsign ⟨ds, heq⟩]

namespace NamesIndex

variable {s : List Char} {i j : Nat}

theorem unique (h : NamesIndex s i) (h' : NamesIndex s j) : i = j :=
  Option.some.inj ((index?_eq_some_iff.mpr h).symm.trans (index?_eq_some_iff.mpr h'))

/-- The characters of an index are digits and plus signs. -/
theorem notMem (h : NamesIndex s i) {c : Char} (hdigit : c.isDigit = false) (hplus : c ≠ '+') : c ∉ s := by
  intro hc
  rcases h with h | ⟨ds, rfl, h⟩
  · rw [h.digits c hc] at hdigit
    cases hdigit
  · rcases List.mem_cons.mp hc with heq | hc
    · exact hplus heq
    · rw [h.digits c hc] at hdigit
      cases hdigit

theorem open_notMem (h : NamesIndex s i) : '\x7b' ∉ s := h.notMem (by decide) (by decide)

theorem close_notMem (h : NamesIndex s i) : '\x7d' ∉ s := h.notMem (by decide) (by decide)

end NamesIndex

/-! ## Cuts -/

/-- A piece of a format for `count` arguments. -/
inductive Piece (count : Nat) where
  /-- A character that stands for itself. -/
  | copied (c : Char)
  /-- A placeholder: the text between its braces, and the argument it stands for. -/
  | placeholder (inner : List Char) (i : Fin count)

variable {count : Nat}

/-- A placeholder as it is written. -/
def braced (inner : List Char) : List Char := '\x7b' :: (inner ++ ['\x7d'])

theorem braced_append (inner rest : List Char) : braced inner ++ rest = '\x7b' :: (inner ++ '\x7d' :: rest) := by
  rw [braced, List.cons_append, ← List.append_cons]

namespace Piece

/-- The piece as it is written in the format. -/
def source : Piece count → List Char
  | copied c => [c]
  | placeholder inner _ => braced inner

/-- What the piece gives in the message. -/
def text (args : Fin count → String) : Piece count → List Char
  | copied c => [c]
  | placeholder _ i => (args i).toList

theorem source_ne_nil (p : Piece count) : p.source ≠ [] := by
  cases p with
  | copied c => exact List.cons_ne_nil c []
  | placeholder inner i => exact List.cons_ne_nil _ _

end Piece

/-- **A format is cut into pieces**: no character is lost, only placeholders are cut out, and every placeholder is,
wherever it stands in the format. -/
structure Divides (format : List Char) (ps : List (Piece count)) : Prop where
  source : ps.flatMap Piece.source = format
  sound {inner : List Char} {i : Fin count} : .placeholder inner i ∈ ps → NamesIndex inner i
  complete {before inner after : List Char} {i : Fin count} : format = before ++ braced inner ++ after →
    NamesIndex inner i → ∃ ps₁ ps₂, ps = ps₁ ++ .placeholder inner i :: ps₂ ∧
      ps₁.flatMap Piece.source = before ∧ ps₂.flatMap Piece.source = after

/-- A placeholder for one of `count` arguments begins at the start of a text. -/
def Begins (count : Nat) (s : List Char) : Prop :=
  ∃ inner after, ∃ i : Fin count, s = braced inner ++ after ∧ NamesIndex inner i

namespace Divides

variable {s : List Char} {p : Piece count} {ps qs : List (Piece count)}

theorem nil : Divides [] ([] : List (Piece count)) where
  source := rfl
  sound h := absurd h List.not_mem_nil
  complete h := by simp [braced] at h

/-- Where no placeholder begins, a character is cut off. -/
theorem copied {c : Char} (hbegins : ¬Begins count (c :: s)) (h : Divides s ps) :
    Divides (c :: s) (.copied c :: ps) where
  source := by rw [List.flatMap_cons, h.source]; rfl
  sound hmem := by
    rcases List.mem_cons.mp hmem with heq | hmem
    · cases heq
    · exact h.sound hmem
  complete {before inner after i} heq hname := by
    cases before with
    | nil => exact absurd ⟨inner, after, i, heq, hname⟩ hbegins
    | cons d before =>
        obtain ⟨rfl, hs⟩ := List.cons.inj heq
        obtain ⟨ps₁, ps₂, rfl, rfl, hafter⟩ := h.complete hs hname
        exact ⟨.copied c :: ps₁, ps₂, rfl, rfl, hafter⟩

/-- A text that begins with a placeholder holds no other that overlaps it. -/
theorem eq_or_behind {inner rest before inner' after : List Char} {i j : Nat} (hname : NamesIndex inner i)
    (hname' : NamesIndex inner' j) (h : braced inner ++ rest = before ++ braced inner' ++ after) :
    (before = [] ∧ inner' = inner ∧ after = rest) ∨
      ∃ more, before = braced inner ++ more ∧ rest = more ++ braced inner' ++ after := by
  cases before with
  | nil =>
      -- both end at their first closing brace
      rw [List.nil_append, braced_append, braced_append] at h
      have hinner := congrArg (List.takeWhile (· != '\x7d')) (List.cons.inj h).2
      rw [takeWhile_ne_append hname.close_notMem, takeWhile_ne_append hname'.close_notMem] at hinner
      subst hinner
      exact .inl ⟨rfl, rfl, (List.cons.inj (List.append_cancel_left (List.cons.inj h).2)).2.symm⟩
  | cons d before =>
      -- the other one opens behind the closing brace, since no brace opens up to there
      have hnot : '\x7b' ∉ inner ++ ['\x7d'] := by
        rw [List.mem_append, List.mem_singleton, not_or]
        exact ⟨hname.open_notMem, by decide⟩
      rw [List.append_assoc] at h
      obtain ⟨rfl, hbehind⟩ := List.cons.inj h
      rcases List.append_eq_append_iff.mp hbehind with ⟨more, rfl, hrest⟩ | ⟨more, hinner, hmore⟩
      · exact .inr ⟨more, rfl, by rw [hrest, List.append_assoc]⟩
      · cases more with
        | nil =>
            rw [List.append_nil] at hinner
            exact .inr ⟨[], by rw [braced, hinner, List.append_nil], by rw [List.append_assoc]; exact hmore.symm⟩
        | cons e more =>
            obtain ⟨rfl, -⟩ := List.cons.inj hmore
            exact absurd (hinner ▸ List.mem_append_right _ List.mem_cons_self) hnot

/-- A placeholder is cut off where it begins. -/
theorem placeholder {inner : List Char} {i : Fin count} (hname : NamesIndex inner i) (h : Divides s ps) :
    Divides (braced inner ++ s) (.placeholder inner i :: ps) where
  source := by rw [List.flatMap_cons, h.source]; rfl
  sound hmem := by
    rcases List.mem_cons.mp hmem with heq | hmem
    · cases heq
      exact hname
    · exact h.sound hmem
  complete {before inner' after j} heq hname' := by
    rcases eq_or_behind hname hname' heq with ⟨rfl, rfl, rfl⟩ | ⟨more, rfl, hs⟩
    · obtain rfl : i = j := Fin.ext (hname.unique hname')
      exact ⟨[], ps, rfl, rfl, h.source⟩
    · obtain ⟨ps₁, ps₂, rfl, rfl, hafter⟩ := h.complete hs hname'
      exact ⟨.placeholder inner i :: ps₁, ps₂, rfl, rfl, hafter⟩

theorem tail (h : Divides (p.source ++ s) (p :: ps)) : Divides s ps where
  source := List.append_cancel_left h.source
  sound hmem := h.sound (List.mem_cons_of_mem p hmem)
  complete {before inner after i} heq hname := by
    have hs : p.source ++ s = (p.source ++ before) ++ braced inner ++ after := by simp [heq]
    obtain ⟨ps₁, ps₂, hps, hbefore, hafter⟩ := h.complete hs hname
    cases ps₁ with
    | nil => exact absurd (List.append_eq_nil_iff.mp hbefore.symm).1 p.source_ne_nil
    | cons q ps₁ =>
        obtain ⟨rfl, rfl⟩ := List.cons.inj hps
        exact ⟨ps₁, ps₂, rfl, List.append_cancel_left hbefore, hafter⟩

/-- A placeholder that begins a format is its first piece. -/
theorem head_of_begins {inner after : List Char} {i : Fin count} (h : Divides (braced inner ++ after) ps)
    (hname : NamesIndex inner i) : ∃ rest, ps = .placeholder inner i :: rest := by
  have hfirst : braced inner ++ after = [] ++ braced inner ++ after := rfl
  obtain ⟨ps₁, ps₂, rfl, hbefore, -⟩ := h.complete hfirst hname
  cases ps₁ with
  | nil => exact ⟨ps₂, rfl⟩
  | cons q ps₁ => exact absurd (List.append_eq_nil_iff.mp hbefore).1 q.source_ne_nil

/-- **A format is cut in one way only.** -/
theorem unique (h : Divides s ps) (h' : Divides s qs) : ps = qs := by
  induction ps generalizing s qs with
  | nil =>
      obtain rfl : s = [] := h.source.symm
      cases qs with
      | nil => rfl
      | cons q qs => exact absurd (List.append_eq_nil_iff.mp h'.source).1 q.source_ne_nil
  | cons p ps ih =>
      obtain rfl : p.source ++ ps.flatMap Piece.source = s := h.source
      have hhead : ∃ rest, qs = p :: rest := by
        cases p with
        | placeholder inner i => exact h'.head_of_begins (h.sound List.mem_cons_self)
        | copied c =>
            cases qs with
            | nil => exact absurd h'.source.symm (List.cons_ne_nil c _)
            | cons q qs =>
                cases q with
                | copied d =>
                    obtain ⟨rfl, -⟩ := List.cons.inj h'.source
                    exact ⟨qs, rfl⟩
                | placeholder inner i =>
                    -- the first cut would have to cut out this placeholder as well
                    rw [← h'.source] at h
                    obtain ⟨rest, hrest⟩ := h.head_of_begins (h'.sound List.mem_cons_self)
                    cases hrest
      obtain ⟨rest, rfl⟩ := hhead
      rw [ih h.tail h'.tail]

end Divides

/-! ## Result -/

/-- A placeholder gives way to its argument. -/
theorem fillFrom_braced (args : Fin count → String) {inner : List Char} {i : Fin count}
    (hname : NamesIndex inner i) (rest : List Char) :
    fillFrom (List.ofFn args) 0 (braced inner ++ rest) = (args i).toList ++ fillFrom (List.ofFn args) 0 rest := by
  have harg : (List.ofFn args)[i.val]? = some (args i) := by simp
  rw [braced_append, fillFrom_placeholder hname.close_notMem, index?_eq_some_iff.mpr hname, Option.bind_some, harg]

/-- Where no placeholder begins, a character is copied. -/
theorem fillFrom_copied (args : Fin count → String) {c : Char} {rest : List Char} (h : ¬Begins count (c :: rest)) :
    fillFrom (List.ofFn args) 0 (c :: rest) = c :: fillFrom (List.ofFn args) 0 rest := by
  by_cases hopen : c = '\x7b'
  · subst hopen
    by_cases hclose : '\x7d' ∈ rest
    · obtain ⟨inner, after, rfl, hinner⟩ := List.eq_append_cons_of_mem hclose
      have hnone : (index? inner).bind ((List.ofFn args)[·]?) = none := by
        rw [Option.bind_eq_none_iff]
        intro i hi
        rw [List.getElem?_eq_none_iff, List.length_ofFn]
        by_contra hlt
        exact h ⟨inner, after, ⟨i, Nat.lt_of_not_le hlt⟩, (braced_append _ _).symm, index?_eq_some_iff.mp hi⟩
      rw [fillFrom_placeholder hinner, hnone]
    · exact fillFrom_unclosed hclose
  · rw [fillFrom, if_neg hopen]

/-- Every format is cut into pieces, and filling goes along the cut. -/
theorem exists_divides (count : Nat) (s : List Char) : ∃ ps : List (Piece count), Divides s ps ∧
    ∀ args : Fin count → String, fillFrom (List.ofFn args) 0 s = ps.flatMap (Piece.text args) := by
  -- A piece is cut off at a time, so the rest is shorter.
  induction hn : s.length using Nat.strongRecOn generalizing s with
  | ind n ih =>
      subst hn
      by_cases hbegins : Begins count s
      · obtain ⟨inner, rest, i, rfl, hname⟩ := hbegins
        have hshorter : rest.length < (braced inner ++ rest).length := by simp [braced]; omega
        obtain ⟨ps, hps, hfill⟩ := ih rest.length hshorter rest rfl
        refine ⟨.placeholder inner i :: ps, hps.placeholder hname, fun args => ?_⟩
        rw [fillFrom_braced args hname, hfill]
        rfl
      · cases s with
        | nil => exact ⟨[], .nil, fun args => by simp [fillFrom]⟩
        | cons c rest =>
            obtain ⟨ps, hps, hfill⟩ := ih rest.length (Nat.lt_succ_self _) rest rfl
            refine ⟨.copied c :: ps, hps.copied hbegins, fun args => ?_⟩
            rw [fillFrom_copied args hbegins, hfill]
            rfl

/-- **Filling replaces exactly the placeholders, all at once.** For a format and a number of arguments there is one
way to cut the format into pieces. Whatever the arguments are, the message has them in the places of the
placeholders and every other character as it is written; rendering by cuts has a result, and it is this message. -/
theorem fill_replaces_placeholders (format : String) (count : Nat) :
    ∃ ps : List (Piece count), Divides format.toList ps ∧
      (∀ qs : List (Piece count), Divides format.toList qs → qs = ps) ∧
      ∀ args : Fin count → String,
        fill format (List.ofFn args) = String.ofList (ps.flatMap (Piece.text args)) ∧
        render? format (List.ofFn args) = some (String.ofList (ps.flatMap (Piece.text args))) := by
  obtain ⟨ps, hps, hfill⟩ := exists_divides count format.toList
  refine ⟨ps, hps, fun qs hqs => hqs.unique hps, fun args => ?_⟩
  have hmessage : fill format (List.ofFn args) = String.ofList (ps.flatMap (Piece.text args)) := by
    rw [fill, hfill]
  exact ⟨hmessage, by rw [render?_eq_fill, hmessage]⟩

/-- What an argument brings in is not looked at again, and a brace that stands for nothing hides no placeholder. -/
example : fill "\x7b\x7b0\x7d\x7b+01\x7d\x7b2\x7d\x7b" ["\x7b1\x7d", "x"] = "\x7b\x7b1\x7dx\x7b2\x7d\x7b" := by decide

end LayerLint.Message
