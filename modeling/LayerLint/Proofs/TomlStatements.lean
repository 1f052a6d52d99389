import LayerLint.Proofs.TomlValues

/-!
# `Proofs.TomlStatements` — the lines of a text

A text is read line by line. A line holds a header, an entry or nothing, with blanks around it and maybe a
comment at its end; only the last line need not be ended. The reader is shown to find exactly the headers and
entries of such a text.

## Contents
- **Ends of lines.** `Remark`: blanks and maybe a comment.
- **Statements.** `SpellsStatement` and `statement_spells`.
- **Texts.** `SpellsLines` and `statements_spells`.
-/

namespace LayerLint.Toml

/-! ## Ends of lines -/

/-- A comment, or nothing. -/
inductive Comment : List Char → Prop where
  | absent : Comment []
  | text {t : List Char} : Plain t → Comment ('#' :: t)

/-- **What may stand at the end of a line**: blanks and maybe a comment. -/
inductive Remark : List Char → Prop where
  | intro {b c : List Char} : Blanks b → Comment c → Remark (b ++ c)

/-- Where a line ends: at a line break or at the end of the text. -/
inductive LineEnd : List Char → List Char → Prop where
  | text : LineEnd [] []
  | feed {w rest : List Char} : IsBreak w → LineEnd (w ++ rest) rest

theorem LineEnd.ends {s rest : List Char} (h : LineEnd s rest) {p : Char → Bool} (hn : p '\n' = false)
    (hr : p '\r' = false) : Ends p s := by
  cases h with
  | text => exact .nil
  | feed hw => exact hw.ends hn hr rest

theorem Comment.ends {c s rest : List Char} (h : Comment c) (hs : LineEnd s rest) {p : Char → Bool}
    (hhash : p '#' = false) (hn : p '\n' = false) (hr : p '\r' = false) : Ends p (c ++ s) := by
  cases h with
  | absent => exact hs.ends hn hr
  | text _ => exact Ends.cons_iff.mpr hhash

theorem dropComment_append {c s rest : List Char} (h : Comment c) (hs : LineEnd s rest) :
    dropComment (c ++ s) = s := by
  cases h with
  | absent =>
      have hhash : Ends (· == '#') s := hs.ends rfl rfl
      rw [List.nil_append, dropComment.eq_def]
      split
      · cases Ends.cons_iff.mp hhash
      · rfl
  | text ht => exact (hs.ends rfl rfl).dropWhile_append ht

theorem endLine_comment {c s rest : List Char} (h : Comment c) (hs : LineEnd s rest) :
    endLine (c ++ s) = some rest := by
  have hspace : Ends isSpace (c ++ s) := h.ends hs rfl rfl rfl
  rw [endLine, hspace.dropWhile_eq, dropComment_append h hs]
  cases hs with
  | text => rfl
  | feed hw =>
      split
      · next hnil => rcases hw with rfl | rfl <;> cases hnil
      · exact hw.lineBreak?_append rest

/-- **The end of a line** is read up to the next line. -/
theorem endLine_remark {r s rest : List Char} (h : Remark r) (hs : LineEnd s rest) :
    endLine (r ++ s) = some rest := by
  obtain ⟨hb, hc⟩ := h
  have hspace : Ends isSpace (_ ++ s) := hc.ends hs rfl rfl rfl
  have hcomment := endLine_comment hc hs
  rw [endLine, hspace.dropWhile_eq] at hcomment
  rw [endLine, List.append_assoc, hspace.dropWhile_append hb, hcomment]

/-- A value may end before the end of a line. -/
theorem Remark.after {r s rest : List Char} (h : Remark r) (hs : LineEnd s rest) : After (r ++ s) := by
  obtain ⟨hb, hc⟩ := h
  have hspace : Ends isSpace (_ ++ s) := hc.ends hs rfl rfl rfl
  rw [After, List.append_assoc, hspace.dropWhile_append hb]
  exact hc.ends hs rfl rfl rfl

/-! ## Statements -/

/-- **The texts that spell a header or an entry.** Keys and values may be nested in any way, less than
`maxDepth` deep. -/
inductive SpellsStatement : Statement → List Char → Prop where
  | header {path : List String} {t : List Char} : SpellsKey path t → path.length < maxDepth →
      SpellsStatement (.header path) ('[' :: (t ++ [']']))
  | entry {k : List String} {v : Value} {t b w : List Char} : SpellsKey k t → k.length < maxDepth → Blanks b →
      Spells (maxDepth - 1) (.value v) w → SpellsStatement (.entry k v) (t ++ '=' :: (b ++ w))

/-- A key begins with a blank or with a name. -/
theorem SpellsKey.ends {ks : List String} {t : List Char} (h : SpellsKey ks t) {p : Char → Bool}
    (hspace : p ' ' = false) (htab : p '\t' = false) (hname : ∀ c, beginsName c = true → p c = false)
    (rest : List Char) : Ends p (t ++ rest) := by
  cases h with
  | one hb hw _ | cons hb hw _ _ =>
      obtain ⟨c, w, rfl, hc⟩ := hw.exists_cons
      rw [List.append_assoc]
      exact hb.ends hspace htab (Ends.cons_iff.mpr (hname c hc))

theorem statement_header {s : List Char} (h : Ends (· == '[') s) :
    statement ('[' :: s) = (do
      let (path, s) ← key s
      let s ← endLine (← exactly ']' s)
      return (.header path, s)) := by
  rw [statement.eq_def]
  split
  case h_1 heq =>
    obtain rfl := (List.cons.inj heq).2
    cases Ends.cons_iff.mp h
  case h_2 heq =>
    obtain rfl := (List.cons.inj heq).2
    rfl
  all_goals simp_all

theorem statement_entry {c : Char} (hc : c ≠ '[') (s : List Char) :
    statement (c :: s) = (do
      let (k, rest) ← key (c :: s)
      let (v, rest) ← value (2 * (c :: s).length + 2) (maxDepth - 1) ((← exactly '=' rest).dropWhile isSpace)
      return (.entry k v, ← endLine rest)) := by
  rw [statement.eq_def]
  split
  case h_3 => rfl
  all_goals simp_all

/-- **A statement on its line is read** with the end of the line, blanks before it aside. It begins with none of
the characters of a line without a statement. -/
theorem statement_spells {st : Statement} {w r s rest : List Char} (h : SpellsStatement st w) (hr : Remark r)
    (hs : LineEnd s rest) :
    ∃ c t, (w ++ (r ++ s)).dropWhile isSpace = c :: t ∧ (c == '#' || c == '\n' || c == '\r') = false ∧
      statement (c :: t) = some (st, rest) := by
  have hend := endLine_remark hr hs
  cases h with
  | @header path t hkey hlength =>
      refine ⟨'[', t ++ (']' :: (r ++ s)), by simp [isSpace], rfl, ?_⟩
      have hclose : Ends continuesKey (']' :: (r ++ s)) := Ends.cons_iff.mpr rfl
      have hread := key_spells hkey hlength hclose
      have hbracket : Ends (· == '[') (t ++ (']' :: (r ++ s))) :=
        hkey.ends rfl rfl (fun c hc => by simp [ne_of_class hc (d := '[') rfl]) _
      simp [statement_header hbracket, hread, exactly_cons, hend]
  | @entry k v t b w hkey hlength hb hvalue =>
      obtain ⟨c, t', hc, hkey', hdrop⟩ := hkey.trimmed
      have hequals : Ends continuesKey ('=' :: (b ++ (w ++ (r ++ s)))) := Ends.cons_iff.mpr rfl
      have hread := key_spells hkey' hlength hequals
      have hspace := (hvalue.ends_isSpace (r ++ s)).dropWhile_append hb
      have hfuel : 2 * w.length ≤ 2 * (c :: (t' ++ '=' :: (b ++ (w ++ (r ++ s))))).length + 2 := by
        simp only [List.length_cons, List.length_append]
        omega
      have hv := value_spells hvalue hfuel (hr.after hs)
      refine ⟨c, t' ++ '=' :: (b ++ (w ++ (r ++ s))), ?_, ?_, ?_⟩
      · simpa using hdrop ('=' :: (b ++ (w ++ (r ++ s))))
      · simp [ne_of_class hc (d := '#') rfl, ne_of_class hc (d := '\n') rfl, ne_of_class hc (d := '\r') rfl]
      · rw [List.cons_append] at hread
        rw [statement_entry (ne_of_class hc (d := '[') rfl), hread]
        simp only [Option.bind_eq_bind, Option.bind_some, exactly_cons, hspace, hv, hend]
        rfl

/-! ## Texts -/

/-- **The texts that spell statements**, each on a line of its own, with lines without a statement between
them. -/
inductive SpellsLines : List Statement → List Char → Prop where
  | last {r : List Char} : Remark r → SpellsLines [] r
  | skip {sts : List Statement} {r w t : List Char} : Remark r → IsBreak w → SpellsLines sts t →
      SpellsLines sts (r ++ (w ++ t))
  | lastStatement {st : Statement} {b w r : List Char} : Blanks b → SpellsStatement st w → Remark r →
      SpellsLines [st] (b ++ (w ++ r))
  | statement {st : Statement} {sts : List Statement} {b w r f t : List Char} : Blanks b →
      SpellsStatement st w → Remark r → IsBreak f → SpellsLines sts t →
      SpellsLines (st :: sts) (b ++ (w ++ (r ++ (f ++ t))))

/-- A line without a statement is passed over. -/
theorem statementsFrom_comment {b c s rest : List Char} (hb : Blanks b) (hc : Comment c) (hs : LineEnd s rest)
    (hne : c ++ s ≠ []) (done : List Statement) (fuel : Nat) :
    statementsFrom done (fuel + 1) (b ++ (c ++ s)) = statementsFrom done fuel rest := by
  have hspace : Ends isSpace (c ++ s) := hc.ends hs rfl rfl rfl
  have hend := endLine_comment hc hs
  have hclass : Ends (fun c => !(c == '#' || c == '\n' || c == '\r')) (c ++ s) := hc.ends hs rfl rfl rfl
  obtain ⟨x, t, ht⟩ := List.exists_cons_of_ne_nil hne
  rw [statementsFrom, hspace.dropWhile_append hb]
  rw [ht] at hend hclass ⊢
  have hx : (x == '#' || x == '\n' || x == '\r') = true := by
    rw [Ends.cons_iff, Bool.not_eq_false'] at hclass
    exact hclass
  simp only [hx, if_true, hend]

/-- The last line ends the statements. -/
theorem statementsFrom_nil (done : List Statement) (fuel : Nat) :
    statementsFrom done (fuel + 1) [] = some done.reverse := rfl

theorem statementsFrom_last {r : List Char} (h : Remark r) (done : List Statement) {fuel : Nat}
    (hfuel : r.length < fuel) : statementsFrom done fuel r = some done.reverse := by
  obtain ⟨fuel, rfl⟩ := Nat.exists_eq_add_one.mpr (Nat.lt_of_le_of_lt (Nat.zero_le _) hfuel)
  obtain ⟨hb, hc⟩ := h
  cases hc with
  | absent =>
      have hblanks := (Ends.nil (p := isSpace)).dropWhile_append hb
      rw [statementsFrom, hblanks]
  | text ht =>
      rw [List.length_append, List.length_cons] at hfuel
      obtain ⟨fuel, rfl⟩ := Nat.exists_eq_add_one.mpr (by omega : 0 < fuel)
      have hskip := statementsFrom_comment hb (.text ht) .text (by simp) done (fuel + 1)
      rw [List.append_nil] at hskip
      rw [hskip, statementsFrom_nil]

theorem statementsFrom_statement {st : Statement} {b w r s rest : List Char} (hb : Blanks b)
    (h : SpellsStatement st w) (hr : Remark r) (hs : LineEnd s rest) (done : List Statement) (fuel : Nat) :
    statementsFrom done (fuel + 1) (b ++ (w ++ (r ++ s))) = statementsFrom (st :: done) fuel rest := by
  obtain ⟨c, t, hdrop, hc, hread⟩ := statement_spells h hr hs
  have hblanks : (b ++ (w ++ (r ++ s))).dropWhile isSpace = c :: t := by
    rw [List.dropWhile_append_of_pos hb, hdrop]
  rw [statementsFrom, hblanks]
  simp only [hc, Bool.false_eq_true, if_false, hread]

theorem SpellsStatement.length_pos {st : Statement} {w : List Char} (h : SpellsStatement st w) :
    0 < w.length := by
  cases h with
  | header _ _ => exact Nat.succ_pos _
  | entry _ _ _ _ =>
      rw [List.length_append, List.length_cons]
      omega

theorem statementsFrom_spells {sts : List Statement} {t : List Char} (h : SpellsLines sts t)
    (done : List Statement) {fuel : Nat} (hfuel : t.length < fuel) :
    statementsFrom done fuel t = some (done.reverse ++ sts) := by
  -- line by line: each line but the last has a character, which pays for its unit of fuel
  induction h generalizing done fuel with
  | last hr => rw [statementsFrom_last hr done hfuel, List.append_nil]
  | @skip sts _ w t hr hw _ ih =>
      obtain @⟨b, c, hb, hc⟩ := hr
      have hpos := hw.length_pos
      simp only [List.length_append] at hfuel
      obtain ⟨fuel, rfl⟩ := Nat.exists_eq_add_one.mpr (by omega : 0 < fuel)
      have hne : c ++ (w ++ t) ≠ [] := by rcases hw with rfl | rfl <;> simp
      rw [List.append_assoc, statementsFrom_comment hb hc (.feed hw) hne, ih done (by omega)]
  | lastStatement hb hst hr =>
      have hpos := hst.length_pos
      simp only [List.length_append] at hfuel
      obtain ⟨fuel, rfl⟩ : ∃ n, fuel = n + 2 := ⟨fuel - 2, by omega⟩
      have hread := statementsFrom_statement hb hst hr .text done (fuel + 1)
      rw [List.append_nil] at hread
      rw [hread, statementsFrom_nil, List.reverse_cons]
  | statement hb hst hr hf _ ih =>
      have hpos := hst.length_pos
      simp only [List.length_append] at hfuel
      obtain ⟨fuel, rfl⟩ := Nat.exists_eq_add_one.mpr (by omega : 0 < fuel)
      rw [statementsFrom_statement hb hst hr (.feed hf), ih _ (by omega), List.reverse_cons, List.append_assoc]
      rfl

/-- A text begins with no byte order mark. -/
theorem SpellsLines.head?_ne {sts : List Statement} {t : List Char} (h : SpellsLines sts t) :
    t.head? ≠ some (Char.ofNat 0xFEFF) := by
  have hname : ∀ c, beginsName c = true → (c == Char.ofNat 0xFEFF) = false :=
    fun c hc => beq_eq_false_iff_ne.mpr (ne_of_class hc rfl)
  have hremark : ∀ {r s rest : List Char}, Remark r → LineEnd s rest → Ends (· == Char.ofNat 0xFEFF) (r ++ s) := by
    rintro _ s rest ⟨hb, hc⟩ hs
    rw [List.append_assoc]
    exact hb.ends rfl rfl (hc.ends hs rfl rfl rfl)
  have hstatement : ∀ {st : Statement} {w : List Char} (s : List Char), SpellsStatement st w →
      Ends (· == Char.ofNat 0xFEFF) (w ++ s) := by
    rintro _ _ s (⟨hkey, -⟩ | ⟨hkey, -, -, -⟩)
    · exact Ends.cons_iff.mpr rfl
    · rw [List.append_assoc]
      exact hkey.ends rfl rfl hname _
  have hends : Ends (· == Char.ofNat 0xFEFF) t := by
    cases h with
    | last hr => simpa using hremark hr .text
    | skip hr hw _ => exact hremark hr (.feed hw)
    | lastStatement hb hst _ | statement hb hst _ _ _ => exact hb.ends rfl rfl (hstatement _ hst)
  intro hmark
  have hfalse := hends _ hmark
  simp at hfalse

/-- **The statements of a text are read as what it spells.** -/
theorem statements_spells {sts : List Statement} {t : List Char} (h : SpellsLines sts t) :
    statements t = some sts := by
  rw [statements, if_neg h.head?_ne]
  exact statementsFrom_spells h [] (Nat.lt_succ_self _)

/-- Statements that can be written can be written one after the other. -/
theorem exists_spellsLines {sts : List Statement} (h : ∀ st ∈ sts, ∃ w, SpellsStatement st w) :
    ∃ t, SpellsLines sts t := by
  induction sts with
  | nil => exact ⟨_, .last (.intro (b := []) nofun .absent)⟩
  | cons st sts ih =>
      obtain ⟨⟨w, hw⟩, hsts⟩ := List.forall_mem_cons.mp h
      obtain ⟨t, ht⟩ := ih hsts
      exact ⟨_, .statement (b := []) nofun hw (.intro (b := []) nofun .absent) (.inl rfl) ht⟩

end LayerLint.Toml
