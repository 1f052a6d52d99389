import LayerLint.Proofs.Calls
import LayerLint.Proofs.Casing
import LayerLint.Proofs.Limits

/-!
# `Proofs.Validity` — which settings an analyzer can be built with

Settings reach an analyzer on two ways: from a configuration, which folds its tokens, or as they are; the
builder then folds tokens whichever way they came. Folding twice is folding once, so the way does not show.
What can go wrong is said of the tokens and limits as a user wrote them: a token that is blank throughout,
or a limit of zero. The first of these is reported, tokens before limits.

## Contents
- **Folding.** `foldToken_foldToken`, `foldToken_eq_empty_iff`, and the form that matchers rely on.
- **Offences.** `IsBlankToken`, `FirstOffence`, and `Settings.firstError?_folded`.
- **Building.** `Setup.configured`, `Setup.given`, and `settings_either_way`.
-/

namespace LayerLint

/-! ## Folding -/

/-- The token holds nothing but blanks. -/
def IsBlankToken (token : String) : Prop := ∀ c ∈ token.toList, Text.isBlank c = true

namespace Vocabulary

theorem toList_foldToken (token : String) :
    (foldToken token).toList = Text.lowerChars (Text.trimChars token.toList) := by
  rw [foldToken, Text.toList_lower, Text.toList_trim]

/-- A folded token has no blanks around it. -/
theorem trim_foldToken (token : String) : Text.trim (foldToken token) = foldToken token := by
  apply String.toList_injective
  rw [Text.toList_trim, toList_foldToken, Text.trimChars_lowerChars]

/-- A folded token is in lower case. -/
theorem lower_foldToken (token : String) : Text.lower (foldToken token) = foldToken token := by
  apply String.toList_injective
  rw [Text.toList_lower, toList_foldToken, Text.lowerChars_lowerChars]

/-- **Folding twice is folding once.** -/
theorem foldToken_foldToken (token : String) : foldToken (foldToken token) = foldToken token := by
  rw [foldToken, trim_foldToken, lower_foldToken]

theorem foldToken_eq_empty_iff {token : String} : foldToken token = "" ↔ IsBlankToken token := by
  rw [← String.toList_eq_nil_iff, toList_foldToken, Text.lowerChars, Text.lowerFrom_eq_nil_iff,
    Text.trimChars_eq_nil_iff]
  rfl

theorem entries_folded (v : Vocabulary) : v.folded.entries = v.entries.map fun e => (e.1, foldToken e.2) := rfl

theorem folded_folded (v : Vocabulary) : v.folded.folded = v.folded := by
  simp only [folded, map, foldToken_foldToken]

end Vocabulary

/-! ## Offences -/

/-- **The first entry that cannot be used**, of tokens and limits as they were written: tokens come before
limits, and both in their order. -/
inductive FirstOffence (v : Vocabulary) (t : Thresholds) : SettingsError → Prop where
  | token {before after : List (String × String)} {key token : String} :
      v.entries = before ++ (key, token) :: after → (∀ e ∈ before, ¬IsBlankToken e.2) → IsBlankToken token →
      FirstOffence v t (.emptyToken key)
  | limit {before after : List (String × Nat)} {key : String} :
      (∀ e ∈ v.entries, ¬IsBlankToken e.2) → t.entries = before ++ (key, 0) :: after →
      (∀ e ∈ before, e.2 ≠ 0) → FirstOffence v t (.zeroThreshold key)

namespace Settings

variable {v : Vocabulary} {t : Thresholds}

/-- The first error in terms of the entries as they were written. -/
theorem firstError?_folded (v : Vocabulary) (t : Thresholds) :
    (folded ⟨v, t⟩).firstError? =
      match v.entries.find? fun e => Vocabulary.foldToken e.2 == "" with
      | some (key, _) => some (.emptyToken key)
      | none => (t.entries.find? (·.2 == 0)).map fun e => .zeroThreshold e.1 := by
  have hfind : v.folded.entries.find? (·.2 == "") =
      (v.entries.find? fun e => Vocabulary.foldToken e.2 == "").map fun e => (e.1, Vocabulary.foldToken e.2) := by
    rw [Vocabulary.entries_folded, List.find?_map]
    rfl
  unfold firstError?
  rw [show (folded ⟨v, t⟩).vocabulary = v.folded from rfl, hfind]
  cases v.entries.find? fun e => Vocabulary.foldToken e.2 == "" with
  | some entry => rfl
  | none =>
      have hthresholds : (folded ⟨v, t⟩).thresholds = t := rfl
      rw [hthresholds]
      cases t.entries.find? (·.2 == 0) <;> rfl

theorem firstOffence_of_firstError? {e : SettingsError} (h : (folded ⟨v, t⟩).firstError? = some e) :
    FirstOffence v t e := by
  rw [firstError?_folded] at h
  -- limits are looked at only if no token is at fault
  cases htoken : v.entries.find? fun e => Vocabulary.foldToken e.2 == "" with
  | some entry =>
      obtain ⟨key, token⟩ := entry
      rw [htoken] at h
      obtain ⟨hblank, before, after, hentries, hbefore⟩ := List.find?_eq_some_iff_append.mp htoken
      obtain rfl := Option.some.inj h
      refine .token hentries (fun b hb hb' => ?_) (Vocabulary.foldToken_eq_empty_iff.mp (beq_iff_eq.mp hblank))
      have hne := hbefore b hb
      rw [Vocabulary.foldToken_eq_empty_iff.mpr hb'] at hne
      cases hne
  | none =>
      rw [htoken] at h
      have hfine : ∀ e ∈ v.entries, ¬IsBlankToken e.2 := by
        intro e he hblank
        have hne := List.find?_eq_none.mp htoken e he
        rw [Vocabulary.foldToken_eq_empty_iff.mpr hblank] at hne
        exact hne rfl
      obtain ⟨⟨key, limit⟩, hlimit, rfl⟩ := Option.map_eq_some_iff.mp h
      obtain ⟨hzero, before, after, hentries, hbefore⟩ := List.find?_eq_some_iff_append.mp hlimit
      obtain rfl : limit = 0 := beq_iff_eq.mp hzero
      refine .limit hfine hentries fun b hb hb' => ?_
      have hne := hbefore b hb
      rw [hb'] at hne
      cases hne

theorem firstError?_of_firstOffence {e : SettingsError} (h : FirstOffence v t e) :
    (folded ⟨v, t⟩).firstError? = some e := by
  rw [firstError?_folded]
  cases h with
  | @token before after key token hentries hbefore hblank =>
      have hfind : (v.entries.find? fun e => Vocabulary.foldToken e.2 == "") = some (key, token) := by
        refine List.find?_eq_some_iff_append.mpr ⟨?_, before, after, hentries, fun b hb => ?_⟩
        · exact beq_iff_eq.mpr (Vocabulary.foldToken_eq_empty_iff.mpr hblank)
        · have hne := mt Vocabulary.foldToken_eq_empty_iff.mp (hbefore b hb)
          simpa using hne
      rw [hfind]
  | @limit before after key hfine hentries hbefore =>
      have hnone : (v.entries.find? fun e => Vocabulary.foldToken e.2 == "") = none := by
        rw [List.find?_eq_none]
        intro e he
        have hne := mt Vocabulary.foldToken_eq_empty_iff.mp (hfine e he)
        simpa using hne
      have hfind : t.entries.find? (·.2 == 0) = some (key, 0) := by
        refine List.find?_eq_some_iff_append.mpr ⟨rfl, before, after, hentries, fun b hb => ?_⟩
        simpa using hbefore b hb
      rw [hnone, hfind]
      rfl

/-- The error of folded settings is the first offence of what was written. -/
theorem firstError?_folded_eq_some_iff {e : SettingsError} :
    (folded ⟨v, t⟩).firstError? = some e ↔ FirstOffence v t e :=
  ⟨firstOffence_of_firstError?, firstError?_of_firstOffence⟩

theorem firstError?_folded_eq_none_iff :
    (folded ⟨v, t⟩).firstError? = none ↔
      (∀ e ∈ v.entries, ¬IsBlankToken e.2) ∧ ∀ e ∈ t.entries, e.2 ≠ 0 := by
  rw [firstError?_eq_none_iff, folded, Vocabulary.entries_folded, List.forall_mem_map]
  simp only [ne_eq, Vocabulary.foldToken_eq_empty_iff]

end Settings

/-! ## Building -/

namespace Setup

variable (s : Setup) (v : Vocabulary) (t : Thresholds)

/-- The setup with tokens and limits in its configuration. -/
def configured : Setup := { s with config := { s.config with naming := v, thresholds := t }, settings := none }

/-- The setup with tokens and limits handed in as settings. -/
def given : Setup := { s with settings := some ⟨v, t⟩ }

theorem effectiveSettings_given : (s.given v t).effectiveSettings = Settings.folded ⟨v, t⟩ := rfl

/-- A configuration folds its tokens before the builder does. -/
theorem effectiveSettings_configured : (s.configured v t).effectiveSettings = Settings.folded ⟨v, t⟩ := by
  show (⟨v.folded.folded, t⟩ : Settings) = ⟨v.folded, t⟩
  rw [Vocabulary.folded_folded]

theorem build_eq_error_iff {s : Setup} {e : SettingsError} :
    s.build = .error e ↔ s.effectiveSettings.firstError? = some e := by
  have hbuild : s.build = (do s.effectiveSettings.validate; return s.analyzer) := rfl
  rw [hbuild]
  unfold Settings.validate
  cases s.effectiveSettings.firstError? with
  | none => exact ⟨nofun, nofun⟩
  | some e' => exact ⟨fun h => congrArg some (Except.error.inj h), fun h => congrArg _ (Option.some.inj h)⟩

theorem exists_build_eq_ok_iff {s : Setup} :
    (∃ a, s.build = .ok a) ↔ s.effectiveSettings.firstError? = none :=
  ⟨fun ⟨_, ha⟩ => (s.build_eq_ok_iff.mp ha).1, fun h => ⟨_, s.build_eq_ok_iff.mpr ⟨h, rfl⟩⟩⟩

/-- The way of the settings does not show. -/
theorem build_configured : (s.configured v t).build = (s.given v t).build := by
  have hsettings := (s.effectiveSettings_configured v t).trans (s.effectiveSettings_given v t).symm
  unfold build
  rw [hsettings]
  rfl

end Setup

/-- **Settings either way.** Tokens and limits from a configuration and the same handed in as settings
build the same analyzer or fail alike. They build one exactly if every token has a character that is not
blank and no limit is zero; otherwise the error names the first entry at fault. The tokens of an analyzer
are as matching requires: not empty, without blanks around them, and in lower case. -/
theorem settings_either_way (s : Setup) (v : Vocabulary) (t : Thresholds) :
    (s.configured v t).build = (s.given v t).build ∧
    ((∃ a, (s.given v t).build = .ok a) ↔
      (∀ e ∈ v.entries, ∃ c ∈ e.2.toList, Text.isBlank c = false) ∧ ∀ e ∈ t.entries, e.2 ≠ 0) ∧
    (∀ e, (s.given v t).build = .error e ↔ FirstOffence v t e) ∧
    ∀ a, (s.given v t).build = .ok a → ∀ e ∈ a.settings.vocabulary.entries,
      e.2 ≠ "" ∧ Text.trim e.2 = e.2 ∧ Text.lower e.2 = e.2 := by
  refine ⟨s.build_configured v t, ?_, fun e => ?_, fun a ha e he => ?_⟩
  · have hblank : ∀ token : String, ¬IsBlankToken token ↔ ∃ c ∈ token.toList, Text.isBlank c = false := by
      intro token
      simp only [IsBlankToken, not_forall, Bool.not_eq_true, exists_prop]
    simp only [← hblank, ← Settings.firstError?_folded_eq_none_iff, ← s.effectiveSettings_given v t]
    exact (s.given v t).exists_build_eq_ok_iff
  · rw [Setup.build_eq_error_iff, Setup.effectiveSettings_given, Settings.firstError?_folded_eq_some_iff]
  · -- the tokens are folded ones, and none of them is empty since the analyzer was built
    obtain ⟨hfine, rfl⟩ := (s.given v t).build_eq_ok_iff.mp ha
    have htokens := (Settings.firstError?_eq_none_iff.mp hfine).1
    have hentry : e ∈ v.folded.entries := he
    rw [Vocabulary.entries_folded] at hentry
    obtain ⟨written, -, rfl⟩ := List.mem_map.mp hentry
    exact ⟨htokens _ he, Vocabulary.trim_foldToken _, Vocabulary.lower_foldToken _⟩

/-- The error of a configuration with two faults names the token, which comes first. -/
example : FirstOffence { service := " \u2003" } { maxClassLines := 0 } (.emptyToken "service") :=
  Settings.firstOffence_of_firstError? (by decide +kernel)

end LayerLint
