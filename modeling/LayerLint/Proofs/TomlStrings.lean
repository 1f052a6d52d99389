import LayerLint.Toml.Quoted
import LayerLint.Toml.Scalar
import Mathlib.Data.List.TakeWhile

/-!
# `Proofs.TomlStrings` — the written forms of strings

For each of the four forms of strings a relation says which texts spell a string in that form, and the reader
of that form is shown to read every such text, whatever follows it.

## Contents
- **Ends.** `Ends`: what stands after a run of characters; line breaks and blanks.
- **Characters.** `SpellsChar`: as itself, by a short escape, or by its code point in four or eight digits.
- **One line.** `SpellsBasic`, `SpellsLiteral`; every text has a basic form (`exists_spellsBasic`).
- **Several lines.** `SpellsMultiBasic`, `SpellsMultiLiteral`.
-/

namespace LayerLint.Toml

/-! ## Ends -/

/-- What follows does not continue a run of characters of some class. -/
def Ends (p : Char → Bool) (rest : List Char) : Prop := ∀ c ∈ rest.head?, p c = false

namespace Ends

variable {p : Char → Bool} {w rest : List Char}

@[simp] theorem nil : Ends p [] := nofun

@[simp] theorem cons_iff {c : Char} : Ends p (c :: rest) ↔ p c = false := by
  simp [Ends]

theorem dropWhile_eq (h : Ends p rest) : rest.dropWhile p = rest := by
  cases rest with
  | nil => rfl
  | cons c rest => rw [List.dropWhile_cons_of_neg (by simp [cons_iff.mp h])]

theorem takeWhile_eq (h : Ends p rest) : rest.takeWhile p = [] := by
  cases rest with
  | nil => rfl
  | cons c rest => rw [List.takeWhile_cons_of_neg (by simp [cons_iff.mp h])]

theorem dropWhile_append (h : Ends p rest) (hw : ∀ c ∈ w, p c = true) : (w ++ rest).dropWhile p = rest := by
  rw [List.dropWhile_append_of_pos hw, h.dropWhile_eq]

theorem takeWhile_append (h : Ends p rest) (hw : ∀ c ∈ w, p c = true) : (w ++ rest).takeWhile p = w := by
  rw [List.takeWhile_append_of_pos hw, h.takeWhile_eq, List.append_nil]

end Ends

/-- Characters that a class tells apart are different. -/
theorem ne_of_class {p : Char → Bool} {c d : Char} (hc : p c = true) (hd : p d = false) : c ≠ d := by
  rintro rfl
  rw [hc] at hd
  cases hd

/-- A line break: a line feed, or a carriage return and a line feed. -/
def IsBreak (w : List Char) : Prop := w = ['\n'] ∨ w = ['\r', '\n']

theorem IsBreak.lineBreak?_append {w : List Char} (h : IsBreak w) (rest : List Char) :
    lineBreak? (w ++ rest) = some rest := by
  rcases h with rfl | rfl <;> rfl

/-- Blanks within a line. -/
def Blanks (w : List Char) : Prop := ∀ c ∈ w, isSpace c = true

/-- Characters that may stand in a comment. -/
def Plain (w : List Char) : Prop := ∀ c ∈ w, isPlain c = true

namespace Quoted

/-! ## Characters -/

theorem hexValue?_eq {d : Char} (h : isHexDigit d = true) : Json.Quoted.hexValue? d = some (digitValue d) := by
  unfold isHexDigit at h
  unfold Json.Quoted.hexValue? digitValue
  simp only [Bool.or_eq_true, Bool.and_eq_true, decide_eq_true_eq, Char.isDigit] at h ⊢
  simp only [Char.le_def, UInt32.le_iff_toNat_le] at h ⊢
  grind

theorem scalar?_toNat (c : Char) : scalar? c.toNat = some c := by
  have hvalid := c.valid
  unfold scalar?
  rw [if_pos, Char.ofNat_toNat]
  have : c.toNat = c.val.toNat := rfl
  rcases hvalid with h | ⟨h, h'⟩
  · simp; omega
  · simp; omega

theorem hexChar?_eq {ds : List Char} {c : Char} (hds : ∀ d ∈ ds, isHexDigit d = true)
    (hvalue : runValue 16 ds = c.toNat) : hexChar? ds = some c := by
  have hfold : ∀ n, ds.foldlM (fun n d => return n * 16 + (← Json.Quoted.hexValue? d)) n =
      some (ds.foldl (fun n d => n * 16 + digitValue d) n) := by
    clear hvalue
    induction ds with
    | nil => exact fun n => rfl
    | cons d ds ih =>
        obtain ⟨hd, hrest⟩ := List.forall_mem_cons.mp hds
        intro n
        rw [List.foldlM_cons, hexValue?_eq hd]
        exact ih hrest _
  unfold runValue at hvalue
  unfold hexChar?
  rw [hfold 0, hvalue]
  exact scalar?_toNat c

/-- **The texts that spell a character in a basic string**: as itself, by a letter after a backslash, or by
its code point. -/
inductive SpellsChar : Char → List Char → Prop where
  | plain {c : Char} : isPlain c = true → c ≠ '"' → c ≠ '\\' → SpellsChar c [c]
  | short {c e : Char} : shortEscape? e = some c → SpellsChar c ['\\', e]
  | four {c : Char} {ds : List Char} : ds.length = 4 → (∀ d ∈ ds, isHexDigit d = true) →
      runValue 16 ds = c.toNat → SpellsChar c ('\\' :: 'u' :: ds)
  | eight {c : Char} {ds : List Char} : ds.length = 8 → (∀ d ∈ ds, isHexDigit d = true) →
      runValue 16 ds = c.toNat → SpellsChar c ('\\' :: 'U' :: ds)

/-- The letter of a short escape begins no other escape, no line break and no blank. -/
theorem ne_of_shortEscape? {e c : Char} (h : shortEscape? e = some c) : e ≠ 'u' ∧ e ≠ 'U' := by
  constructor <;> rintro rfl <;> cases h

/-- The spelling of a character is not empty and begins with no quote. -/
theorem SpellsChar.exists_cons {c : Char} {w : List Char} (h : SpellsChar c w) :
    ∃ d w', w = d :: w' ∧ d ≠ '"' := by
  cases h with
  | plain _ hquote _ => exact ⟨_, _, rfl, hquote⟩
  | short _ | four _ _ _ | eight _ _ _ => exact ⟨_, _, rfl, by decide⟩

/-- Each character has a spelling. -/
theorem exists_spellsChar (c : Char) : ∃ w, SpellsChar c w := by
  by_cases hplain : isPlain c = true ∧ c ≠ '"' ∧ c ≠ '\\'
  · exact ⟨[c], .plain hplain.1 hplain.2.1 hplain.2.2⟩
  · -- what is left are control characters, the quote and the backslash
    have hlt : c.toNat < 128 := by
      by_contra hge
      have hquote : c ≠ '"' := by rintro rfl; exact hge (by decide)
      have hslash : c ≠ '\\' := by rintro rfl; exact hge (by decide)
      refine hplain ⟨?_, hquote, hslash⟩
      simp only [isPlain, Bool.or_eq_true, Bool.and_eq_true, decide_eq_true_eq, bne_iff_ne]
      omega
    have hdigits : ∀ n < 128, ['0', '0', Nat.digitChar (n / 16), Nat.digitChar (n % 16)].all isHexDigit = true ∧
        runValue 16 ['0', '0', Nat.digitChar (n / 16), Nat.digitChar (n % 16)] = n := by
      decide
    exact ⟨_, .four rfl (List.all_eq_true.mp (hdigits _ hlt).1) (hdigits _ hlt).2⟩

/-! ## One line -/

/-- **The texts between the quotes of a basic string**: its characters one after the other. -/
inductive SpellsBasic : List Char → List Char → Prop where
  | nil : SpellsBasic [] []
  | cons {c : Char} {w s t : List Char} : SpellsChar c w → SpellsBasic s t → SpellsBasic (c :: s) (w ++ t)

theorem SpellsBasic.head?_ne {s t : List Char} (h : SpellsBasic s t) : t.head? ≠ some '"' := by
  cases h with
  | nil => exact nofun
  | cons hc _ =>
      obtain ⟨d, w, rfl, hd⟩ := hc.exists_cons
      exact fun heq => hd (Option.some.inj heq)

theorem exists_spellsBasic (s : List Char) : ∃ t, SpellsBasic s t := by
  induction s with
  | nil => exact ⟨[], .nil⟩
  | cons c s ih =>
      obtain ⟨w, hw⟩ := exists_spellsChar c
      obtain ⟨t, ht⟩ := ih
      exact ⟨w ++ t, .cons hw ht⟩

theorem basic_spellsChar {c : Char} {w : List Char} (h : SpellsChar c w) (done rest : List Char) :
    basic done (w ++ rest) = basic (c :: done) rest := by
  cases h with
  | plain hplain hquote hslash => simp [basic, hplain, hslash]
  | short he =>
      obtain ⟨hu, hU⟩ := ne_of_shortEscape? he
      simp [basic, he, hu, hU]
  | @four ds hlength hds hvalue =>
      have hchar := hexChar?_eq hds hvalue
      match ds, hlength with
      | [_, _, _, _], _ => simp [basic, hchar]
  | @eight ds hlength hds hvalue =>
      have hchar := hexChar?_eq hds hvalue
      match ds, hlength with
      | [_, _, _, _, _, _, _, _], _ => simp [basic, hchar]

theorem basic_spells {s t : List Char} (h : SpellsBasic s t) (done rest : List Char) :
    basic done (t ++ '"' :: rest) = some (String.ofList (done.reverse ++ s), rest) := by
  induction h generalizing done with
  | nil => simp [basic]
  | cons hc _ ih =>
      rw [List.append_assoc, basic_spellsChar hc, ih]
      simp

/-- **The texts between the quotes of a literal string**: the string itself. -/
def SpellsLiteral (s t : List Char) : Prop := t = s ∧ ∀ c ∈ s, isPlain c = true ∧ c ≠ '\x27'

theorem SpellsLiteral.head?_ne {s t : List Char} (h : SpellsLiteral s t) : t.head? ≠ some '\x27' := by
  obtain ⟨rfl, hs⟩ := h
  intro heq
  exact (hs _ (List.mem_of_mem_head? heq)).2 rfl

theorem literal_spells {s t : List Char} (h : SpellsLiteral s t) (rest : List Char) :
    literal (t ++ '\x27' :: rest) = some (String.ofList s, rest) := by
  obtain ⟨rfl, hs⟩ := h
  have hall : ∀ c ∈ t, (isPlain c && c != '\x27') = true := by
    intro c hc
    simpa using hs c hc
  have hends : Ends (fun c => isPlain c && c != '\x27') ('\x27' :: rest) := by simp
  unfold literal
  rw [hends.dropWhile_append hall, hends.takeWhile_append hall]
  rfl

/-! ## Several lines -/

/-- Up to two quotes may follow three of them. -/
theorem closing_replicate {q : Char} {n : Nat} (hn : n ≤ 2) {rest : List Char} (hrest : Ends (· == q) rest) :
    closing q (List.replicate n q ++ rest) = some (List.replicate n q, rest) := by
  have hcases : n = 0 ∨ n = 1 ∨ n = 2 := by omega
  rcases hcases with rfl | rfl | rfl <;>
    rcases rest with - | ⟨a, - | ⟨b, - | ⟨c, rest⟩⟩⟩ <;> simp_all [closing, List.replicate]

/-- **The texts after the opening quotes of a basic string of several lines**, up to and with the closing
ones. A line break stands for a line feed, but after a backslash at the end of a line it is dropped with the
blanks and line breaks after it, and `dropping` says that this is under way. Up to two quotes in a row stand
for themselves. -/
inductive SpellsMultiBasic : Bool → List Char → List Char → Prop where
  | close {dropping : Bool} {n : Nat} : n ≤ 2 →
      SpellsMultiBasic dropping (List.replicate n '"') ('"' :: '"' :: '"' :: List.replicate n '"')
  | char {dropping : Bool} {c : Char} {w s t : List Char} : SpellsChar c w → (dropping = true → ¬Blanks w) →
      SpellsMultiBasic false s t → SpellsMultiBasic dropping (c :: s) (w ++ t)
  | quote {dropping : Bool} {s t : List Char} : ¬['"', '"'] <+: t →
      SpellsMultiBasic false s t → SpellsMultiBasic dropping ('"' :: s) ('"' :: t)
  | feed {w s t : List Char} : IsBreak w →
      SpellsMultiBasic false s t → SpellsMultiBasic false ('\n' :: s) (w ++ t)
  | dropFeed {w s t : List Char} : IsBreak w → SpellsMultiBasic true s t → SpellsMultiBasic true s (w ++ t)
  | dropBlank {c : Char} {s t : List Char} : isSpace c = true →
      SpellsMultiBasic true s t → SpellsMultiBasic true s (c :: t)
  | join {dropping : Bool} {blanks w s t : List Char} : Blanks blanks → IsBreak w →
      SpellsMultiBasic true s t → SpellsMultiBasic dropping s ('\\' :: (blanks ++ (w ++ t)))

theorem SpellsMultiBasic.length {dropping : Bool} {s t : List Char} (h : SpellsMultiBasic dropping s t) :
    3 ≤ t.length := by
  induction h with
  | close _ => simp
  | char _ _ _ ih | feed _ _ ih | dropFeed _ _ ih | join _ _ _ ih =>
      simp only [List.length_append, List.length_cons]
      omega
  | quote _ _ ih | dropBlank _ _ ih => exact Nat.le_succ_of_le ih

theorem multiBasicFrom_break {w : List Char} (h : IsBreak w) (dropping : Bool) (done rest : List Char) :
    multiBasicFrom dropping done (w ++ rest) =
      multiBasicFrom dropping (if dropping then done else '\n' :: done) rest := by
  rcases h with rfl | rfl <;> simp [multiBasicFrom]

theorem multiBasicFrom_space {c : Char} (h : isSpace c = true) (done rest : List Char) :
    multiBasicFrom true done (c :: rest) = multiBasicFrom true done rest := by
  have hc : c = ' ' ∨ c = '\t' := by simpa [isSpace] using h
  rcases hc with rfl | rfl <;> simp [multiBasicFrom, isSpace]

theorem multiBasicFrom_blanks {w : List Char} (h : Blanks w) (done rest : List Char) :
    multiBasicFrom true done (w ++ rest) = multiBasicFrom true done rest := by
  induction w with
  | nil => rfl
  | cons c w ih =>
      obtain ⟨hc, hw⟩ := List.forall_mem_cons.mp h
      rw [List.cons_append, multiBasicFrom_space hc, ih hw]

theorem multiBasicFrom_spellsChar {c : Char} {w : List Char} {dropping : Bool} (h : SpellsChar c w)
    (hdropping : dropping = true → ¬Blanks w) (done rest : List Char) :
    multiBasicFrom dropping done (w ++ rest) = multiBasicFrom false (c :: done) rest := by
  cases h with
  | plain hplain hquote hslash =>
      have hreturn : c ≠ '\r' := by rintro rfl; cases hplain
      have hspace : (isSpace c && dropping) = false := by
        cases dropping with
        | false => rw [Bool.and_false]
        | true =>
            have hblanks := hdropping rfl
            rw [Blanks, List.forall_mem_singleton] at hblanks
            simpa using hblanks
      have hfeed : c ≠ '\n' := by rintro rfl; cases hplain
      rw [List.singleton_append, multiBasicFrom.eq_def]
      split
      case h_8 heq =>
        obtain ⟨rfl, rfl⟩ := List.cons.inj heq
        simp [hspace, hplain, hslash]
      all_goals simp_all
  | short he =>
      obtain ⟨hu, hU⟩ := ne_of_shortEscape? he
      simp [multiBasicFrom, he, hu, hU]
  | @four ds hlength hds hvalue =>
      have hchar := hexChar?_eq hds hvalue
      match ds, hlength with
      | [_, _, _, _], _ => simp [multiBasicFrom, hchar]
  | @eight ds hlength hds hvalue =>
      have hchar := hexChar?_eq hds hvalue
      match ds, hlength with
      | [_, _, _, _, _, _, _, _], _ => simp [multiBasicFrom, hchar]

theorem multiBasicFrom_quote {t : List Char} (ht : ¬['"', '"'] <+: t) (hlength : 3 ≤ t.length) (dropping : Bool)
    (done rest : List Char) :
    multiBasicFrom dropping done ('"' :: (t ++ rest)) = multiBasicFrom false ('"' :: done) (t ++ rest) := by
  match t, hlength with
  | a :: b :: t, _ =>
      have hab : a = '"' → b ≠ '"' := by
        rintro rfl rfl
        exact ht ⟨t, rfl⟩
      rw [List.cons_append, List.cons_append, multiBasicFrom.eq_def]
      split
      case h_8 heq =>
        obtain ⟨rfl, rfl⟩ := List.cons.inj heq
        simp [isSpace, isPlain]
      all_goals simp_all

/-- A backslash before a line break. -/
theorem multiBasicFrom_join {blanks w : List Char} (hblanks : Blanks blanks) (hw : IsBreak w) (dropping : Bool)
    (done rest : List Char) :
    multiBasicFrom dropping done ('\\' :: (blanks ++ (w ++ rest))) = multiBasicFrom true done rest := by
  have hends : endsLine (blanks ++ (w ++ rest)) = true := by
    have hbreak : Ends isSpace (w ++ rest) := by rcases hw with rfl | rfl <;> simp [isSpace]
    rw [endsLine, hbreak.dropWhile_append hblanks, hw.lineBreak?_append]
    rfl
  have hdrop : multiBasicFrom true done (blanks ++ (w ++ rest)) = multiBasicFrom true done rest := by
    rw [multiBasicFrom_blanks hblanks, multiBasicFrom_break hw]
    rfl
  rw [← hdrop]
  -- the first character after the backslash is a blank or begins the line break
  obtain ⟨e, tail, heq, he⟩ : ∃ e tail, blanks ++ (w ++ rest) = e :: tail ∧ e ∈ [' ', '\t', '\n', '\r'] := by
    cases blanks with
    | nil => rcases hw with rfl | rfl <;> exact ⟨_, _, rfl, by decide⟩
    | cons e blanks =>
        have hspace := (List.forall_mem_cons.mp hblanks).1
        exact ⟨e, _, rfl, by simp [isSpace] at hspace; rcases hspace with rfl | rfl <;> decide⟩
  rw [heq] at hends ⊢
  have hshort : shortEscape? e = none ∧ e ≠ 'u' ∧ e ≠ 'U' := by
    simp only [List.mem_cons, List.not_mem_nil, or_false] at he
    rcases he with rfl | rfl | rfl | rfl <;> decide
  obtain ⟨hnone, hu, hU⟩ := hshort
  rw [multiBasicFrom.eq_def]
  simp [hnone, hends, hu, hU]

theorem multiBasicFrom_spells {dropping : Bool} {s t : List Char} (h : SpellsMultiBasic dropping s t)
    (done : List Char) {rest : List Char} (hrest : Ends (· == '"') rest) :
    multiBasicFrom dropping done (t ++ rest) = some (String.ofList (done.reverse ++ s), rest) := by
  induction h generalizing done with
  | close hn => simp [multiBasicFrom, closing_replicate hn hrest]
  | char hc hdropping _ ih => simp [multiBasicFrom_spellsChar hc hdropping, ih]
  | quote ht h ih =>
      rw [List.cons_append, multiBasicFrom_quote ht h.length, ih]
      simp
  | feed hw _ ih => simp [multiBasicFrom_break hw, ih]
  | dropFeed hw _ ih => simp [multiBasicFrom_break hw, ih]
  | dropBlank hc _ ih => rw [List.cons_append, multiBasicFrom_space hc, ih]
  | join hblanks hw _ ih =>
      rw [List.cons_append, List.append_assoc, List.append_assoc, multiBasicFrom_join hblanks hw, ih]

/-- **The texts after the opening quotes of a literal string of several lines**, up to and with the closing
ones. -/
inductive SpellsMultiLiteral : List Char → List Char → Prop where
  | close {n : Nat} : n ≤ 2 →
      SpellsMultiLiteral (List.replicate n '\x27') ('\x27' :: '\x27' :: '\x27' :: List.replicate n '\x27')
  | char {c : Char} {s t : List Char} : isPlain c = true → c ≠ '\x27' →
      SpellsMultiLiteral s t → SpellsMultiLiteral (c :: s) (c :: t)
  | quote {s t : List Char} : ¬['\x27', '\x27'] <+: t →
      SpellsMultiLiteral s t → SpellsMultiLiteral ('\x27' :: s) ('\x27' :: t)
  | feed {w s t : List Char} : IsBreak w → SpellsMultiLiteral s t → SpellsMultiLiteral ('\n' :: s) (w ++ t)

theorem SpellsMultiLiteral.length {s t : List Char} (h : SpellsMultiLiteral s t) : 3 ≤ t.length := by
  induction h with
  | close _ => simp
  | feed _ _ ih =>
      rw [List.length_append]
      omega
  | char _ _ _ ih | quote _ _ ih => exact Nat.le_succ_of_le ih

/-- A character that begins neither three quotes nor a line break stands for itself. -/
theorem multiLiteralFrom_plain {c : Char} (hc : isPlain c = true) {t : List Char}
    (ht : c = '\x27' → ¬['\x27', '\x27'] <+: t) (done : List Char) :
    multiLiteralFrom done (c :: t) = multiLiteralFrom (c :: done) t := by
  have hfeed : c ≠ '\n' := by rintro rfl; cases hc
  have hreturn : c ≠ '\r' := by rintro rfl; cases hc
  rw [multiLiteralFrom.eq_def]
  split
  case h_2 heq =>
    obtain ⟨rfl, rfl⟩ := List.cons.inj heq
    exact absurd ⟨_, rfl⟩ (ht rfl)
  case h_5 heq =>
    obtain ⟨rfl, rfl⟩ := List.cons.inj heq
    rw [if_pos hc]
  all_goals simp_all

theorem multiLiteralFrom_spells {s t : List Char} (h : SpellsMultiLiteral s t) (done : List Char)
    {rest : List Char} (hrest : Ends (· == '\x27') rest) :
    multiLiteralFrom done (t ++ rest) = some (String.ofList (done.reverse ++ s), rest) := by
  induction h generalizing done with
  | close hn => simp [multiLiteralFrom, closing_replicate hn hrest]
  | char hc hquote _ ih =>
      rw [List.cons_append, multiLiteralFrom_plain hc (fun heq => absurd heq hquote), ih]
      simp
  | @quote s t ht h ih =>
      have hprefix : ¬['\x27', '\x27'] <+: t ++ rest := by
        match t, h.length with
        | a :: b :: t, _ => simpa using ht
      rw [List.cons_append, multiLiteralFrom_plain (by decide) (fun _ => hprefix), ih]
      simp
  | feed hw _ ih => rcases hw with rfl | rfl <;> simp [multiLiteralFrom, ih]

/-- A line break may stand before the first line of a string of several lines. -/
def Opens (w body : List Char) : Prop :=
  (∃ b, IsBreak b ∧ w = b ++ body) ∨ w = body ∧ Ends (fun c => c == '\n' || c == '\r') body

theorem Opens.dropLineBreak_append {w body : List Char} (h : Opens w body) (hbody : body ≠ [])
    (rest : List Char) : dropLineBreak (w ++ rest) = body ++ rest := by
  rcases h with ⟨b, hb, rfl⟩ | ⟨rfl, hends⟩
  · rw [dropLineBreak, List.append_assoc, hb.lineBreak?_append]
    rfl
  · match w, hbody with
    | c :: w, _ =>
      have hc : c ≠ '\n' ∧ c ≠ '\r' := by simpa using hends
      have hnone : lineBreak? (c :: (w ++ rest)) = none := by
        unfold lineBreak?
        split <;> simp_all
      rw [dropLineBreak, List.cons_append, hnone]
      rfl

/-- **The texts that spell a string**, in one of the four forms and with the quotes around them. -/
inductive Spells : List Char → List Char → Prop where
  | basic {s t : List Char} : SpellsBasic s t → Spells s ('"' :: (t ++ ['"']))
  | literal {s t : List Char} : SpellsLiteral s t → Spells s ('\x27' :: (t ++ ['\x27']))
  | multiBasic {s w t : List Char} : Opens w t → SpellsMultiBasic false s t → Spells s ('"' :: '"' :: '"' :: w)
  | multiLiteral {s w t : List Char} : Opens w t → SpellsMultiLiteral s t →
      Spells s ('\x27' :: '\x27' :: '\x27' :: w)

theorem multiBasic_spells {s w t : List Char} (hw : Opens w t) (h : SpellsMultiBasic false s t)
    {rest : List Char} (hrest : Ends (· == '"') rest) :
    multiBasic (w ++ rest) = some (String.ofList s, rest) := by
  have hne : t ≠ [] := by rintro rfl; exact absurd h.length (by decide)
  rw [multiBasic, hw.dropLineBreak_append hne, multiBasicFrom_spells h [] hrest]
  rfl

theorem multiLiteral_spells {s w t : List Char} (hw : Opens w t) (h : SpellsMultiLiteral s t)
    {rest : List Char} (hrest : Ends (· == '\x27') rest) :
    multiLiteral (w ++ rest) = some (String.ofList s, rest) := by
  have hne : t ≠ [] := by rintro rfl; exact absurd h.length (by decide)
  rw [multiLiteral, hw.dropLineBreak_append hne, multiLiteralFrom_spells h [] hrest]
  rfl

end Quoted

end LayerLint.Toml
