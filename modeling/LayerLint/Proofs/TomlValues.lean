import LayerLint.Proofs.TomlScalars
import LayerLint.Proofs.TomlTables
import Mathlib.Data.List.DropRight

/-!
# `Proofs.TomlValues` — the written forms of keys and values

Values are written one inside another, with blanks, line breaks and comments between the items of an array and
with dotted keys in inline tables. A relation says which texts spell a value, and the reader is shown to read
every such text, with the fuel that its length gives and within the depth that it is granted.

## Contents
- **Between items.** `Trivia` and `skipTrivia_append`.
- **Keys.** `SpellsName`, `SpellsKey` and `key_spells`.
- **Values.** `Phrase`, `Spells` and `value_spells`.
-/

namespace LayerLint.Toml

/-! ## Between items -/

/-- **Blanks, line breaks and comments**, each comment with the end of its line. -/
inductive Trivia : List Char → Prop where
  | nil : Trivia []
  | blank {c : Char} {t : List Char} : isSpace c = true → Trivia t → Trivia (c :: t)
  | feed {w t : List Char} : IsBreak w → Trivia t → Trivia (w ++ t)
  | comment {text w t : List Char} : Plain text → IsBreak w → Trivia t → Trivia ('#' :: (text ++ (w ++ t)))

/-- The characters that trivia begin with. -/
def isTrivial (c : Char) : Bool := isSpace c || c == '#' || c == '\n' || c == '\r'

theorem Blanks.trivia {b : List Char} (h : Blanks b) : Trivia b := by
  induction b with
  | nil => exact .nil
  | cons c b ih =>
      obtain ⟨hc, hb⟩ := List.forall_mem_cons.mp h
      exact .blank hc (ih hb)

/-- A value may end before trivia and a character that ends values. -/
theorem Trivia.after {t : List Char} (h : Trivia t) {c : Char} (hc : isDelimiter c = true) (rest : List Char) :
    After (t ++ c :: rest) := by
  induction h with
  | nil =>
      have hspace : isSpace c = false := by
        by_contra hspace
        simp only [isSpace, Bool.not_eq_false, Bool.or_eq_true, beq_iff_eq] at hspace
        rcases hspace with rfl | rfl <;> cases hc
      rw [After, List.nil_append, List.dropWhile_cons_of_neg (by simp [hspace]), Ends.cons_iff, hc]
      rfl
  | blank hblank _ ih =>
      rw [After, List.cons_append, List.dropWhile_cons_of_pos hblank]
      exact ih
  | feed hw _ _ => rcases hw with rfl | rfl <;> exact Ends.cons_iff.mpr rfl
  | comment _ _ _ _ => exact Ends.cons_iff.mpr rfl

theorem Ends.lineBreak?_eq_none {s : List Char} (h : Ends isTrivial s) : lineBreak? s = none := by
  unfold lineBreak?
  split
  · cases Ends.cons_iff.mp h
  · cases Ends.cons_iff.mp h
  · rfl

theorem Ends.isSpace {s : List Char} (h : Ends isTrivial s) : Ends Toml.isSpace s := by
  intro c hc
  have hclass := h c hc
  simp only [isTrivial, Bool.or_eq_false_iff] at hclass
  exact hclass.1.1.1

theorem dropTrivia_stop {s : List Char} (h : Ends isTrivial s) (fuel : Nat) : dropTrivia fuel s = s := by
  cases fuel with
  | zero => rfl
  | succ fuel =>
      rw [dropTrivia, h.isSpace.dropWhile_eq]
      split
      · cases Ends.cons_iff.mp h
      · rw [h.lineBreak?_eq_none]

theorem dropTrivia_break {w : List Char} (h : IsBreak w) (fuel : Nat) (s : List Char) :
    dropTrivia (fuel + 1) (w ++ s) = dropTrivia fuel s := by
  rcases h with rfl | rfl <;> simp [dropTrivia, isSpace, lineBreak?]

theorem IsBreak.ends {w : List Char} (h : IsBreak w) {p : Char → Bool} (hn : p '\n' = false)
    (hr : p '\r' = false) (s : List Char) : Ends p (w ++ s) := by
  rcases h with rfl | rfl
  · exact Ends.cons_iff.mpr hn
  · exact Ends.cons_iff.mpr hr

theorem IsBreak.length_pos {w : List Char} (h : IsBreak w) : 0 < w.length := by
  rcases h with rfl | rfl <;> decide

theorem dropTrivia_append {t : List Char} (h : Trivia t) {fuel : Nat} (hfuel : t.length ≤ fuel) {s : List Char}
    (hs : Ends isTrivial s) : dropTrivia fuel (t ++ s) = s := by
  induction h generalizing fuel with
  | nil => exact dropTrivia_stop hs fuel
  | @blank c t hc _ ih =>
      obtain ⟨fuel, rfl⟩ := Nat.exists_eq_add_one.mpr (Nat.lt_of_lt_of_le (Nat.succ_pos _) hfuel)
      have hnext : dropTrivia (fuel + 1) (t ++ s) = s := ih (Nat.le_of_succ_le hfuel)
      rw [dropTrivia] at hnext ⊢
      rw [List.cons_append, List.dropWhile_cons_of_pos hc]
      exact hnext
  | feed hw _ ih =>
      rw [List.length_append] at hfuel
      have hpos := hw.length_pos
      obtain ⟨fuel, rfl⟩ := Nat.exists_eq_add_one.mpr (by omega : 0 < fuel)
      rw [List.append_assoc, dropTrivia_break hw]
      exact ih (by omega)
  | @comment text w t htext hw _ ih =>
      rw [List.length_cons, List.length_append, List.length_append] at hfuel
      have hpos := hw.length_pos
      -- one unit of fuel for the comment and one for the end of its line
      obtain ⟨fuel, rfl⟩ : ∃ n, fuel = n + 2 := ⟨fuel - 2, by omega⟩
      have hcomment : dropTrivia (fuel + 2) ('#' :: (text ++ (w ++ t)) ++ s) =
          dropTrivia (fuel + 1) (w ++ (t ++ s)) := by
        have hend : Ends isPlain (w ++ (t ++ s)) := hw.ends rfl rfl _
        have hplain : (text ++ (w ++ (t ++ s))).dropWhile isPlain = w ++ (t ++ s) := hend.dropWhile_append htext
        simp [dropTrivia, isSpace, hplain]
      rw [hcomment, dropTrivia_break hw]
      exact ih (by omega)

theorem skipTrivia_append {t : List Char} (h : Trivia t) {s : List Char} (hs : Ends isTrivial s) :
    skipTrivia (t ++ s) = s :=
  dropTrivia_append h (by simp) hs

/-! ## Keys -/

/-- **The texts that spell a name**: bare, or between single or double quotes. -/
inductive SpellsName : String → List Char → Prop where
  | bare {w : List Char} : w ≠ [] → (∀ c ∈ w, isBare c = true) → SpellsName (String.ofList w) w
  | basic {s t : List Char} : Quoted.SpellsBasic s t → SpellsName (String.ofList s) ('"' :: (t ++ ['"']))
  | literal {s t : List Char} : Quoted.SpellsLiteral s t →
      SpellsName (String.ofList s) ('\x27' :: (t ++ ['\x27']))

/-- **The texts that spell a key**: names with dots between them, and blanks around each name. -/
inductive SpellsKey : List String → List Char → Prop where
  | one {b w b' : List Char} {k : String} : Blanks b → SpellsName k w → Blanks b' →
      SpellsKey [k] (b ++ (w ++ b'))
  | cons {b w b' t : List Char} {k : String} {ks : List String} : Blanks b → SpellsName k w → Blanks b' →
      SpellsKey ks t → SpellsKey (k :: ks) (b ++ (w ++ (b' ++ '.' :: t)))

/-- The characters that can continue a key. -/
def continuesKey (c : Char) : Bool := isSpace c || isBare c || c == '.'

theorem name_spells {k : String} {w rest : List Char} (h : SpellsName k w) (hrest : Ends isBare rest) :
    name (w ++ rest) = some (k, rest) := by
  cases h with
  | bare hne hbare =>
      obtain ⟨c, w, rfl⟩ := List.exists_cons_of_ne_nil hne
      have hc := hbare c (.head _)
      have hquote : c ≠ '"' := by rintro rfl; cases hc
      have hapostrophe : c ≠ '\x27' := by rintro rfl; cases hc
      have htake := hrest.takeWhile_append hbare
      have hdrop := hrest.dropWhile_append hbare
      rw [List.cons_append] at htake hdrop ⊢
      rw [name.eq_def]
      split
      · simp_all
      · simp_all
      · rw [htake, hdrop]
  | basic h =>
      have hread := Quoted.basic_spells h [] rest
      simpa [name] using hread
  | literal h =>
      have hread := Quoted.literal_spells h rest
      simpa [name] using hread

/-- The characters that names begin with. -/
def beginsName (c : Char) : Bool := isBare c || c == '"' || c == '\x27'

theorem SpellsName.exists_cons {k : String} {w : List Char} (h : SpellsName k w) :
    ∃ c w', w = c :: w' ∧ beginsName c = true := by
  cases h with
  | bare hne hbare =>
      obtain ⟨c, w, rfl⟩ := List.exists_cons_of_ne_nil hne
      exact ⟨c, w, rfl, by simp [beginsName, hbare c (.head _)]⟩
  | basic _ | literal _ => exact ⟨_, _, rfl, rfl⟩

/-- No blank begins or continues a name. -/
theorem isSpace_of_class {p : Char → Bool} {c : Char} (hc : p c = true) (hspace : p ' ' = false)
    (htab : p '\t' = false) : isSpace c = false := by
  simp [isSpace, ne_of_class hc hspace, ne_of_class hc htab]

theorem Blanks.ends {b rest : List Char} (h : Blanks b) {p : Char → Bool} (hspace : p ' ' = false)
    (htab : p '\t' = false) (hrest : Ends p rest) : Ends p (b ++ rest) := by
  cases b with
  | nil => exact hrest
  | cons c b =>
      have hc := (List.forall_mem_cons.mp h).1
      rw [List.cons_append, Ends.cons_iff]
      by_contra hclass
      rw [isSpace_of_class (by simpa using hclass) hspace htab] at hc
      cases hc

theorem SpellsName.ends_isSpace {k : String} {w : List Char} (h : SpellsName k w) (rest : List Char) :
    Ends isSpace (w ++ rest) := by
  obtain ⟨c, w, rfl, hc⟩ := h.exists_cons
  exact Ends.cons_iff.mpr (isSpace_of_class hc rfl rfl)

/-- What may follow a key ends its last name. -/
theorem Ends.of_continuesKey {rest : List Char} (h : Ends continuesKey rest) :
    Ends Toml.isSpace rest ∧ Ends isBare rest ∧ Ends (· == '.') rest := by
  refine ⟨fun c hc => ?_, fun c hc => ?_, fun c hc => ?_⟩ <;>
    · have hclass := h c hc
      simp only [continuesKey, Bool.or_eq_false_iff] at hclass
      simp [hclass]

theorem names_spells {ks : List String} {t rest : List Char} (h : SpellsKey ks t)
    (hrest : Ends continuesKey rest) {fuel : Nat} (hfuel : ks.length ≤ fuel) :
    names fuel (t ++ rest) = some (ks, rest) := by
  induction h generalizing fuel with
  | one hb hname hb' =>
      obtain ⟨fuel, rfl⟩ := Nat.exists_eq_add_one.mpr hfuel
      obtain ⟨hspace, hbare, hdot⟩ := hrest.of_continuesKey
      simp only [names, List.append_assoc, (hname.ends_isSpace _).dropWhile_append hb,
        name_spells hname (hb'.ends rfl rfl hbare), hspace.dropWhile_append hb', Option.bind_eq_bind,
        Option.bind_some]
      split
      · cases Ends.cons_iff.mp hdot
      · rfl
  | @cons b w b' t k ks hb hname hb' _ ih =>
      obtain ⟨fuel, rfl⟩ := Nat.exists_eq_add_one.mpr (Nat.lt_of_lt_of_le (Nat.succ_pos _) hfuel)
      have hbare : Ends isBare ('.' :: (t ++ rest)) := Ends.cons_iff.mpr rfl
      have hspace : Ends isSpace ('.' :: (t ++ rest)) := Ends.cons_iff.mpr rfl
      have hnext := ih (Nat.le_of_succ_le_succ hfuel)
      simp only [names, List.append_assoc, List.cons_append, (hname.ends_isSpace _).dropWhile_append hb,
        name_spells hname (hb'.ends rfl rfl hbare), hspace.dropWhile_append hb', Option.bind_eq_bind,
        Option.bind_some, hnext]
      rfl

/-- **Keys are read as the names they spell**, if they are not too many. -/
theorem key_spells {ks : List String} {t rest : List Char} (h : SpellsKey ks t) (hlength : ks.length < maxDepth)
    (hrest : Ends continuesKey rest) : key (t ++ rest) = some (ks, rest) :=
  names_spells h hrest (Nat.le_sub_one_of_lt hlength)

/-- Blanks before a key make no difference. -/
theorem key_dropWhile (s : List Char) : key (s.dropWhile isSpace) = key s := by
  have hsame : (s.dropWhile isSpace).dropWhile isSpace = s.dropWhile isSpace :=
    List.dropWhile_idempotent ..
  unfold key
  cases maxDepth - 1 with
  | zero => rfl
  | succ n => rw [names, names, hsame]

/-- Behind blanks a key begins with a name. -/
theorem SpellsKey.trimmed {ks : List String} {t : List Char} (h : SpellsKey ks t) :
    ∃ c t', beginsName c = true ∧ SpellsKey ks (c :: t') ∧
      ∀ rest, (t ++ rest).dropWhile isSpace = c :: (t' ++ rest) := by
  cases h with
  | @one b w b' k hb hname hb' =>
      obtain ⟨c, w, rfl, hc⟩ := hname.exists_cons
      refine ⟨c, w ++ b', hc, .one (b := []) nofun hname hb', fun rest => ?_⟩
      have hdrop := (hname.ends_isSpace (b' ++ rest)).dropWhile_append hb
      simpa using hdrop
  | @cons b w b' t k ks hb hname hb' h =>
      obtain ⟨c, w, rfl, hc⟩ := hname.exists_cons
      refine ⟨c, w ++ (b' ++ '.' :: t), hc, .cons (b := []) nofun hname hb' h, fun rest => ?_⟩
      have hdrop := (hname.ends_isSpace (b' ++ '.' :: (t ++ rest))).dropWhile_append hb
      simpa using hdrop

/-- Every name can be written between quotes. -/
theorem exists_spellsName (k : String) : ∃ w, SpellsName k w := by
  obtain ⟨t, ht⟩ := Quoted.exists_spellsBasic k.toList
  have hname := SpellsName.basic ht
  rw [String.ofList_toList] at hname
  exact ⟨_, hname⟩

theorem exists_spellsKey : ∀ {ks : List String}, ks ≠ [] → ∃ t, SpellsKey ks t
  | [k], _ => by
      obtain ⟨w, hw⟩ := exists_spellsName k
      exact ⟨[] ++ (w ++ []), .one nofun hw nofun⟩
  | k :: j :: ks, _ => by
      obtain ⟨w, hw⟩ := exists_spellsName k
      obtain ⟨t, ht⟩ := exists_spellsKey (List.cons_ne_nil j ks)
      exact ⟨[] ++ (w ++ ([] ++ '.' :: t)), .cons nofun hw nofun ht⟩

/-! ## Values -/

/-- What is read of a text inside a value: a value, the items of an array from some item on, or the entries of
an inline table from some entry on. -/
inductive Phrase where
  | value (v : Value)
  | items (vs : List Value)
  | pairs (body : Body)

/-- **The texts that spell a value** with arrays and inline tables around each other, of which at most `depth`
are nested. Items are spelled up to and with the closing bracket, and entries up to and with the closing brace;
between items there may be trivia, and after the last one a comma. -/
inductive Spells : Nat → Phrase → List Char → Prop where
  | string {depth : Nat} {s w : List Char} : Quoted.Spells s w →
      Spells depth (.value (.string (String.ofList s))) w
  | plain {depth : Nat} {v : Value} {w : List Char} : SpellsPlain v w → Spells depth (.value v) w
  | emptyArray {depth : Nat} {t : List Char} : Trivia t →
      Spells (depth + 1) (.value (.array [])) ('[' :: (t ++ [']']))
  | array {depth : Nat} {vs : List Value} {t w : List Char} : Trivia t → Spells depth (.items vs) w →
      Spells (depth + 1) (.value (.array vs)) ('[' :: (t ++ w))
  | lastItem {depth : Nat} {v : Value} {w t : List Char} : Spells depth (.value v) w → Trivia t →
      Spells depth (.items [v]) (w ++ (t ++ [']']))
  | lastComma {depth : Nat} {v : Value} {w t t' : List Char} : Spells depth (.value v) w → Trivia t →
      Trivia t' → Spells depth (.items [v]) (w ++ (t ++ ',' :: (t' ++ [']'])))
  | item {depth : Nat} {v : Value} {vs : List Value} {w t t' w' : List Char} : Spells depth (.value v) w →
      Trivia t → Trivia t' → Spells depth (.items vs) w' →
      Spells depth (.items (v :: vs)) (w ++ (t ++ ',' :: (t' ++ w')))
  | emptyTable {depth : Nat} {b : List Char} : Blanks b →
      Spells (depth + 1) (.value (.table [])) ('\x7b' :: (b ++ ['\x7d']))
  | table {depth : Nat} {body : Body} {w : List Char} : Spells depth (.pairs body) w → body.Compatible →
      Spells (depth + 1) (.value (.table (entryValues body.entries))) ('\x7b' :: w)
  | lastPair {depth : Nat} {k : List String} {v : Value} {t b w b' : List Char} : SpellsKey k t →
      k.length < maxDepth → Blanks b → Spells depth (.value v) w → Blanks b' →
      Spells depth (.pairs [(k, v)]) (t ++ '=' :: (b ++ (w ++ (b' ++ ['\x7d']))))
  | pair {depth : Nat} {k : List String} {v : Value} {body : Body} {t b w b' w' : List Char} : SpellsKey k t →
      k.length < maxDepth → Blanks b → Spells depth (.value v) w → Blanks b' → Spells depth (.pairs body) w' →
      Spells depth (.pairs ((k, v) :: body)) (t ++ '=' :: (b ++ (w ++ (b' ++ ',' :: w'))))

/-- The characters that values begin with. -/
def beginsValue (c : Char) : Bool :=
  isNumeric c || c == 't' || c == 'f' || c == '"' || c == '\x27' || c == '[' || c == '\x7b'

theorem Quoted.Spells.exists_cons {s w : List Char} (h : Quoted.Spells s w) :
    ∃ c w', w = c :: w' ∧ beginsValue c = true := by
  cases h with
  | basic _ | literal _ | multiBasic _ _ | multiLiteral _ _ => exact ⟨_, _, rfl, rfl⟩

theorem SpellsPlain.exists_cons {v : Value} {w : List Char} (h : SpellsPlain v w) :
    ∃ c w', w = c :: w' ∧ (isNumeric c || c == 't' || c == 'f') = true := by
  have hnumeric : ∀ {w : List Char}, Numeric w →
      ∃ c w', w = c :: w' ∧ (isNumeric c || c == 't' || c == 'f') = true := by
    rintro _ ⟨c, w, rfl, hc⟩
    exact ⟨c, w, rfl, by rw [hc]; rfl⟩
  cases h with
  | yes | no => exact ⟨_, _, rfl, rfl⟩
  | integer h => exact hnumeric h.numeric
  | float h => exact hnumeric h.numeric
  | dateTime h => exact hnumeric h.numeric

theorem Spells.exists_cons_value {depth : Nat} {v : Value} {w : List Char} (h : Spells depth (.value v) w) :
    ∃ c w', w = c :: w' ∧ beginsValue c = true := by
  cases h with
  | string h => exact h.exists_cons
  | plain h =>
      obtain ⟨c, w, rfl, hc⟩ := h.exists_cons
      refine ⟨c, w, rfl, ?_⟩
      simp only [beginsValue, hc, Bool.true_or]
  | emptyArray _ | array _ _ | emptyTable _ | table _ _ => exact ⟨_, _, rfl, rfl⟩

/-- The items of an array begin with a value. -/
theorem Spells.exists_cons_items {depth : Nat} {vs : List Value} {w : List Char}
    (h : Spells depth (.items vs) w) : ∃ c w', w = c :: w' ∧ beginsValue c = true := by
  cases h with
  | lastItem h _ | lastComma h _ _ | item h _ _ _ =>
      obtain ⟨c, w, rfl, hc⟩ := h.exists_cons_value
      exact ⟨c, _, rfl, hc⟩

/-- A quote that does not begin three of them opens a string on one line. -/
theorem value_basic {s : List Char} (h : ¬['"', '"'] <+: s) (fuel depth : Nat) :
    value (fuel + 1) depth ('"' :: s) = (Quoted.basic [] s).map fun (s, rest) => (.string s, rest) := by
  rw [value.eq_def]
  split
  case h_2 heq =>
    obtain rfl := (List.cons.inj heq).2
    exact absurd ⟨_, rfl⟩ h
  case h_3 heq =>
    obtain rfl := (List.cons.inj heq).2
    rfl
  all_goals simp_all

theorem value_literal {s : List Char} (h : ¬['\x27', '\x27'] <+: s) (fuel depth : Nat) :
    value (fuel + 1) depth ('\x27' :: s) = (Quoted.literal s).map fun (s, rest) => (.string s, rest) := by
  rw [value.eq_def]
  split
  case h_4 heq =>
    obtain rfl := (List.cons.inj heq).2
    exact absurd ⟨_, rfl⟩ h
  case h_5 heq =>
    obtain rfl := (List.cons.inj heq).2
    rfl
  all_goals simp_all

/-- An empty string is not taken for the beginning of three quotes. -/
theorem not_prefix_append {q : Char} {t rest : List Char} (ht : t.head? ≠ some q) (hrest : Ends (· == q) rest) :
    ¬[q, q] <+: t ++ q :: rest := by
  cases t with
  | nil =>
      cases rest with
      | nil => simp
      | cons c rest =>
          have hc : c ≠ q := by simpa using hrest
          simp [hc.symm]
  | cons c t =>
      have hc : c ≠ q := by simpa using ht
      simp [hc.symm]

theorem value_quoted {s w rest : List Char} (h : Quoted.Spells s w) (hrest : After rest) (fuel depth : Nat) :
    value (fuel + 1) depth (w ++ rest) = some (.string (String.ofList s), rest) := by
  have hquote : Ends (· == '"') rest := hrest.ends rfl
  have happostrophe : Ends (· == '\x27') rest := hrest.ends rfl
  cases h with
  | basic h =>
      have hread := Quoted.basic_spells h [] rest
      rw [List.cons_append, List.append_assoc, List.singleton_append,
        value_basic (not_prefix_append h.head?_ne hquote), hread]
      rfl
  | literal h =>
      have hread := Quoted.literal_spells h rest
      rw [List.cons_append, List.append_assoc, List.singleton_append,
        value_literal (not_prefix_append h.head?_ne happostrophe), hread]
      rfl
  | multiBasic hw h => simp [value, Quoted.multiBasic_spells hw h hquote]
  | multiLiteral hw h => simp [value, Quoted.multiLiteral_spells hw h happostrophe]

theorem value_plain {v : Value} {w rest : List Char} (h : SpellsPlain v w) (hrest : After rest)
    (fuel depth : Nat) : value (fuel + 1) depth (w ++ rest) = some (v, rest) := by
  have hread := plainScalar_spells h hrest
  obtain ⟨c, w, rfl, hc⟩ := h.exists_cons
  have hquote := ne_of_class (p := fun c => isNumeric c || c == 't' || c == 'f') hc (d := '"') rfl
  have happostrophe := ne_of_class (p := fun c => isNumeric c || c == 't' || c == 'f') hc (d := '\x27') rfl
  have hbracket := ne_of_class (p := fun c => isNumeric c || c == 't' || c == 'f') hc (d := '[') rfl
  have hbrace := ne_of_class (p := fun c => isNumeric c || c == 't' || c == 'f') hc (d := '\x7b') rfl
  rw [List.cons_append] at hread ⊢
  rw [value.eq_def]
  split
  case h_10 => exact hread
  all_goals simp_all

theorem value_array (fuel depth : Nat) (s : List Char) :
    value (fuel + 1) (depth + 1) ('[' :: s) =
      match skipTrivia s with
      | ']' :: rest => some (.array [], rest)
      | s => (items fuel depth s).map fun (vs, rest) => (.array vs, rest) := by
  unfold value
  rfl

theorem value_table (fuel depth : Nat) (s : List Char) :
    value (fuel + 1) (depth + 1) ('\x7b' :: s) =
      match s.dropWhile isSpace with
      | '\x7d' :: rest => some (.table [], rest)
      | s => (do
          let (pairs, rest) ← pairs fuel depth s
          return (← inlineTable pairs, rest)) := by
  unfold value
  rfl

/-- A value begins with nothing that stands between values. -/
theorem not_trivial_of_beginsValue {c : Char} (h : beginsValue c = true) : isTrivial c = false := by
  simp [isTrivial, isSpace, ne_of_class h (d := ' ') rfl, ne_of_class h (d := '\t') rfl,
    ne_of_class h (d := '#') rfl, ne_of_class h (d := '\n') rfl, ne_of_class h (d := '\r') rfl]

theorem Spells.ends_isSpace {depth : Nat} {v : Value} {w : List Char} (h : Spells depth (.value v) w)
    (rest : List Char) : Ends isSpace (w ++ rest) := by
  obtain ⟨c, w, rfl, hc⟩ := h.exists_cons_value
  exact Ends.cons_iff.mpr (isSpace_of_class hc rfl rfl)

/-- Behind blanks the entries of an inline table begin with a name. -/
theorem Spells.exists_cons_pairs {depth : Nat} {body : Body} {w : List Char} (h : Spells depth (.pairs body) w)
    (rest : List Char) : ∃ c s, (w ++ rest).dropWhile isSpace = c :: s ∧ beginsName c = true := by
  cases h with
  | lastPair hk _ _ _ _ | pair hk _ _ _ _ _ =>
      obtain ⟨c, t, hc, -, hdrop⟩ := hk.trimmed
      rw [List.append_assoc, hdrop]
      exact ⟨c, _, rfl, hc⟩

/-- Blanks before an entry make no difference. -/
theorem pairs_dropWhile (fuel depth : Nat) (s : List Char) :
    pairs fuel depth (s.dropWhile isSpace) = pairs fuel depth s := by
  cases fuel with
  | zero => rfl
  | succ fuel => rw [pairs, pairs, key_dropWhile]

/-- The phrase is read off the front of a text. -/
def Phrase.IsRead (fuel depth : Nat) (s rest : List Char) : Phrase → Prop
  | .value v => After rest → Toml.value fuel depth s = some (v, rest)
  | .items vs => Toml.items fuel depth s = some (vs, rest)
  | .pairs body => Toml.pairs fuel depth s = some (body, rest)

/-- **Phrases are read as what they spell**, with fuel for twice their length. -/
theorem Spells.isRead {depth : Nat} {p : Phrase} {w : List Char} (h : Spells depth p w) {fuel : Nat}
    (hfuel : 2 * w.length ≤ fuel) (rest : List Char) : p.IsRead fuel depth (w ++ rest) rest := by
  -- on the spelling: a value and the phrase it begins each take a unit of fuel, hence two for a character
  induction h generalizing fuel rest with
  | string h =>
      obtain ⟨c, w, rfl, -⟩ := h.exists_cons
      obtain ⟨fuel, rfl⟩ := Nat.exists_eq_add_one.mpr (Nat.lt_of_lt_of_le (Nat.succ_pos _) hfuel)
      exact fun hrest => value_quoted h hrest fuel _
  | plain h =>
      obtain ⟨c, w, rfl, -⟩ := h.exists_cons
      obtain ⟨fuel, rfl⟩ := Nat.exists_eq_add_one.mpr (Nat.lt_of_lt_of_le (Nat.succ_pos _) hfuel)
      exact fun hrest => value_plain h hrest fuel _
  | emptyArray ht =>
      obtain ⟨fuel, rfl⟩ := Nat.exists_eq_add_one.mpr (Nat.lt_of_lt_of_le (Nat.succ_pos _) hfuel)
      intro hrest
      have hskip := skipTrivia_append ht (s := ']' :: rest) (Ends.cons_iff.mpr rfl)
      rw [List.cons_append, value_array, List.append_assoc, List.singleton_append, hskip]
      rfl
  | @array depth vs t w ht hitems ih =>
      obtain ⟨fuel, rfl⟩ := Nat.exists_eq_add_one.mpr (Nat.lt_of_lt_of_le (Nat.succ_pos _) hfuel)
      intro hrest
      rw [List.length_cons, List.length_append] at hfuel
      have hread := @ih fuel (by omega) rest
      obtain ⟨c, w, rfl, hc⟩ := hitems.exists_cons_items
      have hskip := skipTrivia_append ht (s := c :: w ++ rest)
        (Ends.cons_iff.mpr (not_trivial_of_beginsValue hc))
      -- the first item begins with no bracket, so the array is not taken for an empty one
      have hbracket := ne_of_class hc (d := ']') rfl
      have hitem : items fuel depth (c :: w ++ rest) = some (vs, rest) := hread
      rw [List.cons_append, value_array, List.append_assoc, hskip]
      simp only [List.cons_append] at hitem ⊢
      split
      · simp_all
      · rw [hitem]
        rfl
  | lastItem hv ht ih =>
      rw [List.length_append, List.length_append, List.length_singleton] at hfuel
      obtain ⟨fuel, rfl⟩ := Nat.exists_eq_add_one.mpr (by omega : 0 < fuel)
      have hread := @ih fuel (by omega) _ (ht.after (c := ']') rfl rest)
      have hskip := skipTrivia_append ht (s := ']' :: rest) (Ends.cons_iff.mpr rfl)
      simp [Phrase.IsRead, items, hread, hskip]
  | @lastComma _ v w t t' hv ht ht' ih =>
      simp only [List.length_append, List.length_cons, List.length_nil] at hfuel
      obtain ⟨fuel, rfl⟩ := Nat.exists_eq_add_one.mpr (by omega : 0 < fuel)
      have hread := @ih fuel (by omega) _ (ht.after (c := ',') rfl (t' ++ ']' :: rest))
      have hcomma := skipTrivia_append ht (s := ',' :: (t' ++ ']' :: rest)) (Ends.cons_iff.mpr rfl)
      have hskip := skipTrivia_append ht' (s := ']' :: rest) (Ends.cons_iff.mpr rfl)
      simp [Phrase.IsRead, items, hread, hcomma, hskip]
  | @item _ v vs w t t' w' hv ht ht' hvs ih ihs =>
      simp only [List.length_append, List.length_cons] at hfuel
      obtain ⟨fuel, rfl⟩ := Nat.exists_eq_add_one.mpr (by omega : 0 < fuel)
      have hread := @ih fuel (by omega) _ (ht.after (c := ',') rfl (t' ++ (w' ++ rest)))
      -- behind the comma there is another item, which is no bracket
      have hmore : items fuel _ (w' ++ rest) = some (vs, rest) := ihs (by omega) rest
      have hcomma := skipTrivia_append ht (s := ',' :: (t' ++ (w' ++ rest))) (Ends.cons_iff.mpr rfl)
      obtain ⟨c, w', rfl, hc⟩ := hvs.exists_cons_items
      have hbracket := ne_of_class hc (d := ']') rfl
      have hskip := skipTrivia_append ht' (s := c :: w' ++ rest)
        (Ends.cons_iff.mpr (not_trivial_of_beginsValue hc))
      simp only [List.cons_append] at hread hmore hcomma hskip
      simp [Phrase.IsRead, items, hread, hcomma, hskip, hmore, hbracket]
  | emptyTable hb =>
      obtain ⟨fuel, rfl⟩ := Nat.exists_eq_add_one.mpr (Nat.lt_of_lt_of_le (Nat.succ_pos _) hfuel)
      intro hrest
      have hbrace : Ends isSpace ('\x7d' :: rest) := Ends.cons_iff.mpr rfl
      rw [List.cons_append, value_table, List.append_assoc, List.singleton_append, hbrace.dropWhile_append hb]
      rfl
  | @table depth body w hpairs hbody ih =>
      obtain ⟨fuel, rfl⟩ := Nat.exists_eq_add_one.mpr (Nat.lt_of_lt_of_le (Nat.succ_pos _) hfuel)
      intro hrest
      rw [List.length_cons] at hfuel
      have hread : pairs fuel depth (w ++ rest) = some (body, rest) := ih (by omega) rest
      rw [← pairs_dropWhile] at hread
      obtain ⟨c, s, hs, hc⟩ := hpairs.exists_cons_pairs rest
      have hbrace := ne_of_class hc (d := '\x7d') rfl
      rw [hs] at hread
      rw [List.cons_append, value_table, hs]
      simp [hread, hbrace, inlineTable_eq_some hbody]
  | @lastPair _ k v t b w b' hk hlength hb hv hb' ih =>
      simp only [List.length_append, List.length_cons, List.length_nil] at hfuel
      obtain ⟨fuel, rfl⟩ := Nat.exists_eq_add_one.mpr (by omega : 0 < fuel)
      have hread := @ih fuel (by omega) _ (hb'.trivia.after (c := '\x7d') rfl rest)
      have hequals : Ends continuesKey ('=' :: (b ++ (w ++ (b' ++ '\x7d' :: rest)))) := Ends.cons_iff.mpr rfl
      have hkey := key_spells hk hlength hequals
      have hvalue := (hv.ends_isSpace (b' ++ '\x7d' :: rest)).dropWhile_append hb
      have hbrace : Ends isSpace ('\x7d' :: rest) := Ends.cons_iff.mpr rfl
      simp [Phrase.IsRead, pairs, hkey, exactly_cons, hvalue, hread, hbrace.dropWhile_append hb']
  | @pair _ k v body t b w b' w' hk hlength hb hv hb' hbody ih ihs =>
      simp only [List.length_append, List.length_cons] at hfuel
      obtain ⟨fuel, rfl⟩ := Nat.exists_eq_add_one.mpr (by omega : 0 < fuel)
      have hread := @ih fuel (by omega) _ (hb'.trivia.after (c := ',') rfl (w' ++ rest))
      have hmore : pairs fuel _ (w' ++ rest) = some (body, rest) := ihs (by omega) rest
      have hequals : Ends continuesKey ('=' :: (b ++ (w ++ (b' ++ ',' :: (w' ++ rest))))) := Ends.cons_iff.mpr rfl
      have hkey := key_spells hk hlength hequals
      have hvalue := (hv.ends_isSpace (b' ++ ',' :: (w' ++ rest))).dropWhile_append hb
      have hcomma : Ends isSpace (',' :: (w' ++ rest)) := Ends.cons_iff.mpr rfl
      simp [Phrase.IsRead, pairs, hkey, exactly_cons, hvalue, hread, hcomma.dropWhile_append hb', hmore]

/-- **Values are read as what they spell**, within the depth that they need. -/
theorem value_spells {depth : Nat} {v : Value} {w rest : List Char} (h : Spells depth (.value v) w) {fuel : Nat}
    (hfuel : 2 * w.length ≤ fuel) (hrest : After rest) : value fuel depth (w ++ rest) = some (v, rest) :=
  h.isRead hfuel rest hrest

end LayerLint.Toml
