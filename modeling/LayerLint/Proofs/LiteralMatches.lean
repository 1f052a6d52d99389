import LayerLint.Proofs.Validity

/-!
# `Proofs.LiteralMatches` — when folding loses a literal match

Tokens and names are lower-cased apart from each other and then compared. Lower-casing looks at neighbours at one
point only: a capital sigma closes a word or does not, and has two forms. So a token that stands in a name letter by
letter is found there exactly if each of its capital sigmas closes a word in the name as it does in the token alone.
A token that ends in a capital sigma is not found in a longer word, and neither before a dot that is followed by a
letter, which is how files are named.

## Contents
- **Contexts.** `Text.lowerBetween`, the lower case of a text between others; its length is the same everywhere
  (`Text.length_lowerBetween`), and it is the same exactly if sigmas are (`Text.lowerBetween_eq_iff`).
- **Word ends.** `Text.KeepsWordEnds`, and what it means for a token to be found where it stands, at the end and at
  the start of a name.
- **Result.** `literal_matches_kept`, and `final_sigma_hides_token`.
-/

namespace LayerLint

namespace Text

/-! ## Contexts -/

/-- Lower-cases a text that stands between `before` (nearest first) and `after`. -/
def lowerBetween (before : List Char) : List Char → List Char → List Char
  | [], _ => []
  | c :: s, after => lowerAt before c (s ++ after) ++ lowerBetween (c :: before) s after

theorem lowerBetween_nil (before s : List Char) : lowerBetween before s [] = lowerFrom before s := by
  induction s generalizing before with
  | nil => rfl
  | cons c s ih => rw [lowerBetween, lowerFrom, List.append_nil, ih]

/-- **The lower case of a text in two parts**: the first is lower-cased before the second, the second after the
first. -/
theorem lowerFrom_append (before s t : List Char) :
    lowerFrom before (s ++ t) = lowerBetween before s t ++ lowerFrom (s.reverse ++ before) t := by
  induction s generalizing before with
  | nil => rfl
  | cons c s ih =>
      rw [List.cons_append, lowerFrom, ih, lowerBetween, List.reverse_cons, List.append_assoc, List.append_assoc]
      rfl

/-- A character gives as many characters wherever it stands. -/
theorem length_lowerAt (before before' : List Char) (c : Char) (after after' : List Char) :
    (lowerAt before c after).length = (lowerAt before' c after').length := by
  unfold lowerAt
  split
  · rfl
  · split <;> rfl

/-- So does a text. -/
theorem length_lowerBetween (before before' s after after' : List Char) :
    (lowerBetween before s after).length = (lowerBetween before' s after').length := by
  induction s generalizing before before' with
  | nil => rfl
  | cons c s ih =>
      rw [lowerBetween, lowerBetween, List.length_append, List.length_append,
        length_lowerAt before before' c (s ++ after) (s ++ after'), ih (c :: before) (c :: before')]

theorem lowerAt_eq_iff {before before' after after' : List Char} {c : Char} :
    lowerAt before c after = lowerAt before' c after' ↔
      (c = 'Σ' → endsWord before after = endsWord before' after') := by
  by_cases hc : c = 'Σ'
  · rw [lowerAt, lowerAt, if_pos hc, if_pos hc]
    cases endsWord before after <;> cases endsWord before' after' <;> simp [hc]
  · exact ⟨fun _ h => absurd h hc, fun _ => lowerAt_of_ne hc before after before' after'⟩

/-- **The lower case of a text is the same in two contexts** exactly if its capital sigmas close words in the one
where they do in the other. -/
theorem lowerBetween_eq_iff {before before' s after after' : List Char} :
    lowerBetween before s after = lowerBetween before' s after' ↔
      ∀ x y, s = x ++ 'Σ' :: y →
        endsWord (x.reverse ++ before) (y ++ after) = endsWord (x.reverse ++ before') (y ++ after') := by
  induction s generalizing before before' with
  | nil => simp [lowerBetween]
  | cons c s ih =>
      have hlength := length_lowerAt before before' c (s ++ after) (s ++ after')
      rw [lowerBetween, lowerBetween, List.append_eq_append_iff_of_size_eq_left hlength, lowerAt_eq_iff, ih]
      constructor
      · rintro ⟨hhead, htail⟩ x y hsplit
        cases x with
        | nil =>
            obtain ⟨rfl, rfl⟩ := List.cons.inj hsplit
            exact hhead rfl
        | cons d x =>
            obtain ⟨rfl, rfl⟩ := List.cons.inj hsplit
            simpa using htail x y rfl
      · intro h
        refine ⟨fun hc => h [] s (by rw [hc]; rfl), fun x y hsplit => ?_⟩
        simpa using h (c :: x) y (by rw [hsplit]; rfl)

/-! ## Word ends -/

/-- **A text keeps its word ends** between others: each capital sigma in it closes a word there exactly if it closes
one in the text alone. -/
def KeepsWordEnds (before text after : String) : Prop :=
  ∀ x y, text.toList = x ++ 'Σ' :: y →
    endsWord (x.reverse ++ before.toList.reverse) (y ++ after.toList) = endsWord x.reverse y

variable {before text after : String}

theorem KeepsWordEnds.of_notMem (h : 'Σ' ∉ text.toList) (before after : String) :
    KeepsWordEnds before text after := by
  intro x y hsplit
  rw [hsplit] at h
  exact absurd (List.mem_append_right x List.mem_cons_self) h

theorem keepsWordEnds_iff : KeepsWordEnds before text after ↔
    lowerBetween before.toList.reverse text.toList after.toList = (lower text).toList := by
  rw [toList_lower, lowerChars, ← lowerBetween_nil, lowerBetween_eq_iff]
  simp only [List.append_nil, KeepsWordEnds]

instance : Decidable (KeepsWordEnds before text after) := decidable_of_iff' _ keepsWordEnds_iff

/-- The lower case of a name in three parts. -/
theorem toList_lower_append (before text after : String) :
    (lower (before ++ text ++ after)).toList = lowerBetween [] before.toList (text.toList ++ after.toList) ++
      lowerBetween before.toList.reverse text.toList after.toList ++
      lowerFrom (text.toList.reverse ++ before.toList.reverse) after.toList := by
  rw [toList_lower, String.toList_append, String.toList_append, lowerChars, List.append_assoc, lowerFrom_append,
    lowerFrom_append, List.append_nil, List.append_assoc]

theorem length_lowerBetween_eq (before after : List Char) (text : String) :
    (lowerBetween before text.toList after).length = (lower text).toList.length := by
  rw [toList_lower, lowerChars, ← lowerBetween_nil, length_lowerBetween]

end Text

/-- The lower case of `name` holds the token right after the lower case of `start`, with which the name starts. -/
def TokenFollows (name token start : String) : Prop :=
  token.toList <+: (Text.lower name).toList.drop (Text.lower start).toList.length

section

variable {before text after : String}

/-- **A token is found where it stands** exactly if it keeps its word ends there. -/
theorem tokenFollows_iff :
    TokenFollows (before ++ text ++ after) (Text.lower text) before ↔ Text.KeepsWordEnds before text after := by
  have hplace := Text.length_lowerBetween_eq [] (text.toList ++ after.toList) before
  have hlength := Text.length_lowerBetween_eq before.toList.reverse after.toList text
  rw [Text.keepsWordEnds_iff, TokenFollows, Text.toList_lower_append, List.append_assoc, ← hplace, List.drop_left]
  constructor
  · rintro ⟨rest, hrest⟩
    exact (List.append_inj_left hrest hlength.symm).symm
  · intro h
    exact ⟨_, congrArg (· ++ _) h.symm⟩

/-- The start of a name is where nothing stands before. -/
theorem startsWithToken_iff :
    startsWithToken (text ++ after) (Text.lower text) = true ↔ Text.KeepsWordEnds "" text after := by
  rw [← tokenFollows_iff, startsWithToken, Text.startsWith, List.isPrefixOf_iff_prefix, String.empty_append]
  rfl

/-- At the end of a name there is nothing left to be found. -/
theorem endsWithToken_iff :
    endsWithToken (before ++ text) (Text.lower text) = true ↔ Text.KeepsWordEnds before text "" := by
  have hlength := Text.length_lowerBetween_eq before.toList.reverse [] text
  have hsplit := Text.toList_lower_append before text ""
  rw [String.append_empty, String.toList_empty, Text.lowerFrom_nil, List.append_nil] at hsplit
  rw [Text.keepsWordEnds_iff, endsWithToken, Text.endsWith, List.isSuffixOf_iff_suffix, hsplit]
  constructor
  · rintro ⟨rest, hrest⟩
    exact (List.append_inj' hrest hlength.symm).2.symm
  · intro h
    exact ⟨_, congrArg (_ ++ ·) h.symm⟩

theorem Text.KeepsWordEnds.containsToken (h : KeepsWordEnds before text after) :
    containsToken (before ++ text ++ after) (lower text) = true := by
  rw [LayerLint.containsToken, occursIn, occursInChars_iff, toList_lower_append, keepsWordEnds_iff.mp h]
  exact ⟨_, _, rfl⟩

end

/-! ## Result -/

namespace Setup

/-- The tokens as they were written, in the settings or in the configuration. -/
def naming (s : Setup) : Vocabulary :=
  match s.settings with
  | some given => given.vocabulary
  | none => s.config.naming

/-- An analyzer matches these tokens in their folded form. -/
theorem vocabulary_effectiveSettings (s : Setup) : s.effectiveSettings.vocabulary = s.naming.folded := by
  unfold effectiveSettings naming
  cases s.settings with
  | some given => rfl
  | none => exact s.config.naming.folded_folded

end Setup

theorem Layer.token?_folded (v : Vocabulary) (l : Layer) :
    l.token? v.folded = (l.token? v).map Vocabulary.foldToken := by
  cases l <;> rfl

/-- **A literal match is kept exactly where word ends are.** Take a token of an analyzer and a name in which the
token, without blanks around it, stands letter by letter. The analyzer finds it there exactly if it keeps its word
ends there, and then the name contains it and belongs to its layer; at the end of a name this is the test for
endings, and at the start the one for beginnings. A token without a capital sigma keeps its word ends everywhere. -/
theorem literal_matches_kept {s : Setup} {a : Analyzer} (hbuild : s.build = .ok a) :
    (∀ e ∈ s.naming.entries, ∃ folded, (e.1, folded) ∈ a.settings.vocabulary.entries ∧
      ∀ before after : String,
        let token := Text.trim e.2
        let name := before ++ token ++ after
        (TokenFollows name folded before ↔ Text.KeepsWordEnds before token after) ∧
        (Text.KeepsWordEnds before token after → containsToken name folded = true) ∧
        (endsWithToken (before ++ token) folded = true ↔ Text.KeepsWordEnds before token "") ∧
        (startsWithToken (token ++ after) folded = true ↔ Text.KeepsWordEnds "" token after) ∧
        ('Σ' ∉ token.toList → Text.KeepsWordEnds before token after)) ∧
    (∀ (l : Layer) (token : String), l.token? s.naming = some token → ∀ before after : String,
      Text.KeepsWordEnds before (Text.trim token) after →
        l.holds a.settings.vocabulary (before ++ Text.trim token ++ after) = true) ∧
    ∀ before : String, isModelBySuffix a.settings.vocabulary (before ++ Text.trim s.naming.model) = true ↔
      Text.KeepsWordEnds before (Text.trim s.naming.model) "" := by
  obtain ⟨-, rfl⟩ := s.build_eq_ok_iff.mp hbuild
  have htokens : s.analyzer.settings.vocabulary = s.naming.folded := s.vocabulary_effectiveSettings
  rw [htokens]
  refine ⟨fun e he => ⟨Vocabulary.foldToken e.2, ?_, fun before after => ?_⟩, fun l token htoken before after h => ?_,
    fun before => endsWithToken_iff⟩
  · rw [Vocabulary.entries_folded]
    exact List.mem_map_of_mem he
  · exact ⟨tokenFollows_iff, Text.KeepsWordEnds.containsToken, endsWithToken_iff, startsWithToken_iff,
      fun hsigma => .of_notMem hsigma before after⟩
  · rw [Layer.holds, Layer.token?_folded, htoken]
    exact h.containsToken

namespace Sample

/-- A configuration with a Greek word for controllers, which ends in a sigma. -/
def greek : Setup where
  rules := Catalog.rules
  config := { naming := { controller := " ΕΛΕΓΚΤΗΣ " } }

theorem build_greek : greek.build = .ok greek.analyzer :=
  greek.build_eq_ok_iff.mpr ⟨by decide +kernel, rfl⟩

end Sample

/-- A folder with the name of the token is found: the word ends at the slash. -/
theorem literal_matches_kept_sample :
    Sample.greek.build = .ok Sample.greek.analyzer ∧
      Text.KeepsWordEnds "Web/" "ΕΛΕΓΚΤΗΣ" "/Pedido.cs" ∧
      Layer.controller.holds Sample.greek.analyzer.settings.vocabulary "Web/ΕΛΕΓΚΤΗΣ/Pedido.cs" = true := by
  have htrim : Text.trim " ΕΛΕΓΚΤΗΣ " = "ΕΛΕΓΚΤΗΣ" := by decide +kernel
  have hkeeps : Text.KeepsWordEnds "Web/" "ΕΛΕΓΚΤΗΣ" "/Pedido.cs" := by decide +kernel
  obtain ⟨-, hlayers, -⟩ := literal_matches_kept Sample.build_greek
  have hholds := hlayers .controller " ΕΛΕΓΚΤΗΣ " rfl "Web/" "/Pedido.cs"
  rw [htrim] at hholds
  exact ⟨Sample.build_greek, hkeeps, hholds hkeeps⟩

/-- **A file with the name of the token is not found**: the dot and the letter after it go on with the word, so the
sigma is no longer one that closes it. -/
theorem final_sigma_hides_token :
    ∃ a, Sample.greek.build = .ok a ∧
      ¬ ∀ (l : Layer) (token : String), l.token? Sample.greek.naming = some token → ∀ before after : String,
          l.holds a.settings.vocabulary (before ++ Text.trim token ++ after) = true := by
  refine ⟨_, Sample.build_greek, fun h => ?_⟩
  have hholds := h .controller " ΕΛΕΓΚΤΗΣ " rfl "Web/" ".cs"
  have hnot : Layer.controller.holds Sample.greek.analyzer.settings.vocabulary
      ("Web/" ++ Text.trim " ΕΛΕΓΚΤΗΣ " ++ ".cs") = false := by decide +kernel
  rw [hnot] at hholds
  cases hholds

end LayerLint
