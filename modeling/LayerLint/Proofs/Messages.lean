import LayerLint.Descriptor
import LayerLint.Text.Line
import Mathlib.Data.List.TakeWhile

/-!
# `Proofs.Messages` — how formats are filled

A message is rendered by cutting its format at byte positions, and a position may fall inside a character.
The cuts made here never do, because each of them is next to a brace that was found: `render?`, which
cuts, always has a result, and it is what `fill` says.

A format that is given enough arguments leaves no placeholder open: `Filled`.

## Contents
- **Filling.** What `fillFrom` does with text, with a placeholder and with a brace that is never closed.
- **Cuts.** `cut?`, `position?`, `render?` and `render?_eq_fill`.
- **Complete messages.** `answeredBy`, `Filled` and `filled_fill`.
-/

namespace LayerLint.Message

/-! ## Filling -/

variable {args : List String}

theorem takeWhile_ne_append {c : Char} {before : List Char} (h : c ∉ before) (after : List Char) :
    (before ++ c :: after).takeWhile (· != c) = before := by
  have hbefore : ∀ d ∈ before, (d != c) = true := fun d hd => bne_iff_ne.mpr fun heq => h (heq ▸ hd)
  rw [List.takeWhile_append_of_pos hbefore, List.takeWhile_cons_of_neg (by simp), List.append_nil]

theorem takeWhile_ne_self {c : Char} {s : List Char} (h : c ∉ s) : s.takeWhile (· != c) = s :=
  List.takeWhile_eq_self_iff.mpr fun _ hd => bne_iff_ne.mpr fun heq => h (heq ▸ hd)

theorem fillFrom_drop (skip : Nat) (s : List Char) :
    fillFrom args skip s = fillFrom args 0 (s.drop skip) := by
  induction skip generalizing s with
  | zero => rfl
  | succ skip ih =>
      cases s with
      | nil => simp [fillFrom]
      | cons c s => rw [fillFrom, ih, List.drop_succ_cons]

/-- Text is copied. -/
theorem fillFrom_text {text : List Char} (h : '\x7b' ∉ text) (rest : List Char) :
    fillFrom args 0 (text ++ rest) = text ++ fillFrom args 0 rest := by
  induction text with
  | nil => rfl
  | cons c text ih =>
      rw [List.mem_cons, not_or] at h
      rw [List.cons_append, fillFrom, if_neg (Ne.symm h.1), ih h.2]
      rfl

/-- A placeholder with an argument gives way to it; the brace of another one is copied. -/
theorem fillFrom_placeholder {inner : List Char} (h : '\x7d' ∉ inner) (rest : List Char) :
    fillFrom args 0 ('\x7b' :: (inner ++ '\x7d' :: rest)) =
      match (index? inner).bind (args[·]?) with
      | some arg => arg.toList ++ fillFrom args 0 rest
      | none => '\x7b' :: fillFrom args 0 (inner ++ '\x7d' :: rest) := by
  have hlength : inner.length < (inner ++ '\x7d' :: rest).length := by simp
  rw [fillFrom, if_pos rfl, placeholder?, takeWhile_ne_append h, if_pos hlength]
  cases (index? inner).bind (args[·]?) with
  | none => rfl
  | some arg =>
      have hdrop : (inner ++ '\x7d' :: rest).drop (inner.length + 1) = rest := by simp
      rw [Option.map_some]
      show arg.toList ++ fillFrom args (inner.length + 1) (inner ++ '\x7d' :: rest) = _
      rw [fillFrom_drop, hdrop]

theorem fillFrom_unclosed {rest : List Char} (h : '\x7d' ∉ rest) :
    fillFrom args 0 ('\x7b' :: rest) = '\x7b' :: fillFrom args 0 rest := by
  rw [fillFrom, if_pos rfl, placeholder?, takeWhile_ne_self h, if_neg (Nat.lt_irrefl _)]

/-! ## Cuts -/

/-- Cuts a text after a number of bytes. There is no cut inside a character or beyond the end. -/
def cut? : Nat → List Char → Option (List Char × List Char)
  | 0, s => some ([], s)
  | _ + 1, [] => none
  | n + 1, c :: s =>
      if c.utf8Size ≤ n + 1 then (cut? (n + 1 - c.utf8Size) s).map fun (a, b) => (c :: a, b) else none

theorem cut?_append (a b : List Char) : cut? (Text.byteLength a) (a ++ b) = some (a, b) := by
  induction a with
  | nil => cases b <;> rfl
  | cons c a ih =>
      obtain ⟨n, hn⟩ : ∃ n, Text.byteLength (c :: a) = n + 1 := by
        refine ⟨Text.byteLength (c :: a) - 1, ?_⟩
        have hpos := c.utf8Size_pos
        rw [Text.byteLength_cons]
        omega
      have hrest : n + 1 - c.utf8Size = Text.byteLength a := by
        rw [← hn, Text.byteLength_cons]
        omega
      have hle : c.utf8Size ≤ n + 1 := by
        rw [← hn, Text.byteLength_cons]
        omega
      rw [hn, List.cons_append, cut?, if_pos hle, hrest, ih]
      rfl

/-- The byte position of the first occurrence of a character. -/
def position? (c : Char) (s : List Char) : Option Nat :=
  if c ∈ s then some (Text.byteLength (s.takeWhile (· != c))) else none

theorem position?_append {c : Char} {before : List Char} (h : c ∉ before) (after : List Char) :
    position? c (before ++ c :: after) = some (Text.byteLength before) := by
  rw [position?, if_pos (by simp), takeWhile_ne_append h]

/-- A cut just past a brace that was found. -/
theorem cut?_past {c : Char} (hc : c.utf8Size = 1) (before after : List Char) :
    cut? (Text.byteLength before + 1) (before ++ c :: after) = some (before ++ [c], after) := by
  have hbytes : Text.byteLength (before ++ [c]) = Text.byteLength before + 1 := by simp [hc]
  rw [← hbytes, List.append_cons before c after, cut?_append]

/-- The argument that an opening brace stands for, with the byte position of the closing one; `none`
outside if a cut fails. -/
def argument? (args : List String) (after : List Char) : Option (Option (String × Nat)) :=
  match position? '\x7d' after with
  | none => some none
  | some close => do
      let (inner, _) ← cut? close after
      return ((index? inner).bind (args[·]?)).map (·, close)

/-- Renders a format by cutting it at braces, at most `fuel` of them. -/
def renderFrom (args : List String) : Nat → List Char → Option (List Char)
  | 0, _ => none
  | fuel + 1, rest =>
      match position? '\x7b' rest with
      | none => some rest
      | some start => do
          let (text, _) ← cut? start rest
          let (_, after) ← cut? (start + 1) rest
          match ← argument? args after with
          | some (arg, close) =>
              let (_, rest) ← cut? (close + 1) after
              return text ++ (arg.toList ++ (← renderFrom args fuel rest))
          | none => return text ++ '\x7b' :: (← renderFrom args fuel after)

/-- Renders a format by cuts. -/
def render? (format : String) (args : List String) : Option String :=
  (renderFrom args (format.toList.length + 1) format.toList).map String.ofList

theorem argument?_append {inner : List Char} (h : '\x7d' ∉ inner) (rest : List Char) :
    argument? args (inner ++ '\x7d' :: rest) =
      some (((index? inner).bind (args[·]?)).map (·, Text.byteLength inner)) := by
  rw [argument?, position?_append h]
  show (cut? (Text.byteLength inner) (inner ++ '\x7d' :: rest)).bind _ = _
  rw [cut?_append]
  rfl

/-- One round: the text before the first brace, then what the brace stands for. -/
theorem renderFrom_succ {text : List Char} (h : '\x7b' ∉ text) (after : List Char) (fuel : Nat) :
    renderFrom args (fuel + 1) (text ++ '\x7b' :: after) = (argument? args after).bind fun
      | some (arg, close) => (cut? (close + 1) after).bind fun (_, rest) =>
          (renderFrom args fuel rest).map fun s => text ++ (arg.toList ++ s)
      | none => (renderFrom args fuel after).map fun s => text ++ '\x7b' :: s := by
  have hbrace : ('\x7b' : Char).utf8Size = 1 := by decide
  rw [renderFrom, position?_append h]
  simp only [cut?_append, cut?_past hbrace, Option.bind_eq_bind, Option.bind_some, Option.pure_def]
  congr 1
  funext found
  cases found with
  | none => cases renderFrom args fuel after <;> rfl
  | some found =>
      show (cut? (found.2 + 1) after).bind _ = _
      congr 1
      funext cut
      cases renderFrom args fuel cut.2 <;> rfl

/-- Rendering fills the format, as long as there are rounds left. -/
theorem renderFrom_eq_fillFrom {fuel : Nat} {s : List Char} (h : s.length < fuel) :
    renderFrom args fuel s = some (fillFrom args 0 s) := by
  -- A round uses up at least the brace it starts at, so the rest is shorter than the rounds left.
  induction fuel generalizing s with
  | zero => omega
  | succ fuel ih =>
      by_cases hbrace : '\x7b' ∈ s
      · obtain ⟨text, after, rfl, htext⟩ := List.eq_append_cons_of_mem hbrace
        rw [renderFrom_succ htext, fillFrom_text htext]
        rw [List.length_append, List.length_cons] at h
        by_cases hclose : '\x7d' ∈ after
        · obtain ⟨inner, rest, rfl, hinner⟩ := List.eq_append_cons_of_mem hclose
          rw [argument?_append hinner, fillFrom_placeholder hinner]
          rw [List.length_append, List.length_cons] at h
          cases (index? inner).bind (args[·]?) with
          | none =>
              have hafter : (inner ++ '\x7d' :: rest).length < fuel := by simp; omega
              simp [ih hafter]
          | some arg =>
              have hone : ('\x7d' : Char).utf8Size = 1 := by decide
              have hrest : rest.length < fuel := by omega
              simp [cut?_past hone, ih hrest]
        · have hnone : argument? args after = some none := by
            rw [argument?, position?, if_neg hclose]
          have hafter : after.length < fuel := by omega
          rw [hnone, fillFrom_unclosed hclose]
          simp [ih hafter]
      · have hnone : position? '\x7b' s = none := if_neg hbrace
        have hfill := @fillFrom_text args s hbrace []
        rw [List.append_nil] at hfill
        rw [renderFrom, hnone, hfill]
        simp [fillFrom]

/-- **No cut falls inside a character**: every format is rendered, and as `fill` says. -/
theorem render?_eq_fill (format : String) (args : List String) :
    render? format args = some (fill format args) := by
  rw [render?, renderFrom_eq_fillFrom (Nat.lt_succ_self _)]
  rfl

/-! ## Complete messages -/

/-- Every brace of a format opens a placeholder with an index below `count`; the first `skip` characters
are left out. -/
def answeredBy (count : Nat) : Nat → List Char → Bool
  | _, [] => true
  | skip + 1, _ :: rest => answeredBy count skip rest
  | 0, c :: rest =>
      if c = '\x7b' then
        let inner := rest.takeWhile (· != '\x7d')
        decide ('\x7d' ∈ rest) && (index? inner).any (· < count) && answeredBy count (inner.length + 1) rest
      else answeredBy count 0 rest

/-- **The message is the format with every placeholder filled.** No brace of the format is left over. -/
inductive Filled (args : List String) : List Char → List Char → Prop where
  | done : Filled args [] []
  | text {c : Char} {format message : List Char} : c ≠ '\x7b' → Filled args format message →
      Filled args (c :: format) (c :: message)
  | placeholder {inner format message : List Char} {i : Nat} {arg : String} : '\x7d' ∉ inner →
      index? inner = some i → args[i]? = some arg → Filled args format message →
      Filled args ('\x7b' :: (inner ++ '\x7d' :: format)) (arg.toList ++ message)

theorem answeredBy_drop (count skip : Nat) (s : List Char) :
    answeredBy count skip s = answeredBy count 0 (s.drop skip) := by
  induction skip generalizing s with
  | zero => rfl
  | succ skip ih =>
      cases s with
      | nil => simp [answeredBy]
      | cons c s => rw [answeredBy, ih, List.drop_succ_cons]

theorem filled_fillFrom {s : List Char} (h : answeredBy args.length 0 s = true) :
    Filled args s (fillFrom args 0 s) := by
  induction hn : s.length using Nat.strongRecOn generalizing s with
  | ind n ih =>
      subst hn
      cases s with
      | nil =>
          rw [fillFrom]
          exact .done
      | cons c s =>
          rw [answeredBy] at h
          by_cases hc : c = '\x7b'
          · subst hc
            rw [if_pos rfl, Bool.and_eq_true, Bool.and_eq_true, decide_eq_true_eq] at h
            obtain ⟨⟨hclose, hindex⟩, hrest⟩ := h
            obtain ⟨inner, rest, rfl, hinner⟩ := List.eq_append_cons_of_mem hclose
            rw [takeWhile_ne_append hinner] at hindex hrest
            cases hi : index? inner with
            | none =>
                rw [hi] at hindex
                cases hindex
            | some i =>
                rw [hi, Option.any_some, decide_eq_true_eq] at hindex
                have harg := List.getElem?_eq_getElem hindex
                have hdrop : (inner ++ '\x7d' :: rest).drop (inner.length + 1) = rest := by simp
                rw [answeredBy_drop, hdrop] at hrest
                rw [fillFrom_placeholder hinner, hi, Option.bind_some, harg]
                exact .placeholder hinner hi harg (ih rest.length (by simp; omega) hrest rfl)
          · rw [if_neg hc] at h
            have hfill : fillFrom args 0 (c :: s) = c :: fillFrom args 0 s := by rw [fillFrom, if_neg hc]
            rw [hfill]
            exact .text hc (ih s.length (by simp) h rfl)

/-- For a literal format the test is computed on its characters. -/
theorem answeredBy_ofList {count : Nat} {s : List Char} (h : answeredBy count 0 s = true) :
    answeredBy count 0 (String.ofList s).toList = true := by
  rw [String.toList_ofList]
  exact h

/-- **A format that is given all its arguments is filled.** -/
theorem filled_fill {format : String} (h : answeredBy args.length 0 format.toList = true) :
    Filled args format.toList (fill format args).toList := by
  rw [fill, String.toList_ofList]
  exact filled_fillFrom h

end LayerLint.Message
