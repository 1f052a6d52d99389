import LayerLint.Path

/-!
# `Proofs.Paths` — spellings of a path

The components of a path are what it starts with, and one for each of its pieces that is no empty one and no `.`.
A slash only ever separates pieces, so what stands behind it counts for itself: from this follow all laws on
spellings that make no difference, and what a name that is joined to a path adds to its components.

## Contents
- **Slashes.** `Path.inner`, `Path.components_append_slash`.
- **Spellings.** Slashes that are repeated or stand at the end, and `.` inside a path, make no difference.
- **Joining.** `Path.IsName`, `Path.components_join`.
-/

namespace LayerLint.Path

/-! ## Slashes -/

/-- The components that a text stands for inside a path, behind a slash. -/
def inner (s : String) : List Component := (pieces s).filterMap component?

/-- The component that the first piece of a path adds when a slash follows it. -/
def lead (first : String) : List Component :=
  if first = "" then [.root] else if first = "." then [.current] else []

theorem pieces_ne_nil (s : String) : pieces s ≠ [] := by
  rw [pieces, ne_eq, List.map_eq_nil_iff]
  exact Text.pieces_ne_nil _ _

theorem pieces_append_slash (p q : String) : pieces (p ++ "/" ++ q) = pieces p ++ pieces q := by
  have hslash : (p ++ "/" ++ q).toList = p.toList ++ '/' :: q.toList := by
    rw [String.toList_append, String.toList_append, List.append_assoc]
    rfl
  rw [pieces, hslash, Text.pieces_append_sep (by decide), List.map_append]
  rfl

@[simp] theorem inner_append_slash (p q : String) : inner (p ++ "/" ++ q) = inner p ++ inner q := by
  rw [inner, pieces_append_slash, List.filterMap_append]
  rfl

@[simp] theorem inner_empty : inner "" = [] := by decide

@[simp] theorem inner_dot : inner "." = [] := by decide

/-- The first piece tells what the path starts with; an empty one does so only if a slash follows it. -/
theorem components_of_pieces {path first : String} {rest : List String} (h : pieces path = first :: rest)
    (hfirst : first ≠ "" ∨ rest ≠ []) : components path = lead first ++ inner path := by
  unfold components inner lead
  rw [h]
  by_cases hempty : first = ""
  · subst hempty
    obtain ⟨second, rest, rfl⟩ := List.exists_cons_of_ne_nil (hfirst.resolve_left (fun hne => hne rfl))
    rfl
  · by_cases hdot : first = "."
    · subst hdot
      rfl
    · rw [if_neg hempty, if_neg hdot]
      dsimp only
      split
      · next heq => exact absurd (List.cons.inj heq).1 hempty
      · next heq => exact absurd (List.cons.inj heq).1 hdot
      · rfl

/-- **What stands behind a slash counts for itself.** -/
theorem components_append_slash (p q : String) :
    components (p ++ "/" ++ q) = components (p ++ "/") ++ inner q := by
  obtain ⟨first, rest, hp⟩ := List.exists_cons_of_ne_nil (pieces_ne_nil p)
  have hcomponents : ∀ s, components (p ++ "/" ++ s) = lead first ++ (inner p ++ inner s) := by
    intro s
    obtain ⟨next, more, hs⟩ := List.exists_cons_of_ne_nil (pieces_ne_nil s)
    rw [← inner_append_slash]
    have hpieces : pieces (p ++ "/" ++ s) = first :: (rest ++ next :: more) := by
      rw [pieces_append_slash, hp, hs]
      rfl
    exact components_of_pieces hpieces (.inr (by simp))
  have hend := hcomponents ""
  rw [String.append_empty, inner_empty, List.append_nil] at hend
  rw [hcomponents, hend, List.append_assoc]

/-! ## Spellings -/

/-- Only the empty path has a single piece that is empty. -/
theorem eq_empty_of_pieces {p : String} (h : pieces p = [""]) : p = "" := by
  rw [pieces, List.map_eq_singleton_iff] at h
  obtain ⟨piece, hpieces, hpiece⟩ := h
  obtain rfl : piece = [] := String.ofList_injective hpiece
  rw [← String.toList_eq_nil_iff]
  cases hp : p.toList with
  | nil => rfl
  | cons c rest =>
      rw [hp, Text.pieces] at hpieces
      split at hpieces
      · exact absurd (List.cons.inj hpieces).2 (Text.pieces_ne_nil _ _)
      · split at hpieces
        · cases hpieces
        · cases hpieces

theorem first_ne_or_rest_ne {p first : String} {rest : List String} (h : p ≠ "") (hp : pieces p = first :: rest) :
    first ≠ "" ∨ rest ≠ [] := by
  by_cases hempty : first = ""
  · subst hempty
    exact .inr fun hnil => h (eq_empty_of_pieces (hnil ▸ hp))
  · exact .inl hempty

/-- A path starts at the root if nothing stands before its first slash. -/
theorem isAbsolute_iff {p first : String} {rest : List String} (h : p ≠ "") (hp : pieces p = first :: rest) :
    isAbsolute p = true ↔ first = "" := by
  cases hchars : p.toList with
  | nil => exact absurd (String.toList_eq_nil_iff.mp hchars) h
  | cons c s =>
      have hslash : isAbsolute p = (c == '/') := by
        rw [isAbsolute, Text.startsWith, hchars]
        exact (Bool.and_true _).trans Bool.beq_comm
      rw [hslash, beq_iff_eq]
      obtain ⟨next, more, hs⟩ := List.exists_cons_of_ne_nil (Text.pieces_ne_nil (· == '/') s)
      rw [pieces, hchars, Text.pieces, hs] at hp
      by_cases hc : c = '/'
      · rw [if_pos (beq_iff_eq.mpr hc)] at hp
        exact ⟨fun _ => (List.cons.inj hp).1.symm, fun _ => hc⟩
      · rw [if_neg fun heq => hc (beq_iff_eq.mp heq)] at hp
        refine ⟨fun heq => absurd heq hc, ?_⟩
        rintro rfl
        have hfirst : String.ofList (c :: next) = "" := (List.cons.inj hp).1
        cases String.ofList_injective hfirst

/-- A slash at the end makes no difference, unless nothing stands before it. -/
theorem components_slash_end {p : String} (h : p ≠ "") : components (p ++ "/") = components p := by
  obtain ⟨first, rest, hp⟩ := List.exists_cons_of_ne_nil (pieces_ne_nil p)
  have hfirst := first_ne_or_rest_ne h hp
  have hslash : p ++ "/" = p ++ "/" ++ "" := String.append_empty.symm
  have hpieces : pieces (p ++ "/") = first :: (rest ++ [""]) := by
    rw [hslash, pieces_append_slash, hp]
    rfl
  rw [components_of_pieces hpieces (.inr (by simp)), components_of_pieces hp hfirst, hslash, inner_append_slash,
    inner_empty, List.append_nil]

/-- Behind a slash, a text that stands for no component may be left out with its slash. -/
theorem components_skip {void : String} (hvoid : inner void = []) (p q : String) :
    components (p ++ "/" ++ (void ++ "/" ++ q)) = components (p ++ "/" ++ q) := by
  rw [components_append_slash, inner_append_slash, hvoid, List.nil_append, ← components_append_slash]

/-- **Repeated slashes make no difference.** -/
theorem components_slash_slash (p q : String) : components (p ++ "//" ++ q) = components (p ++ "/" ++ q) := by
  have hslashes : "//" = "/" ++ "/" := rfl
  have hsplit : p ++ "//" ++ q = p ++ "/" ++ ("" ++ "/" ++ q) := by
    simp only [hslashes, String.append_assoc, String.empty_append]
  rw [hsplit, components_skip inner_empty]

/-- **A `.` inside a path makes no difference.** -/
theorem components_slash_dot (p q : String) : components (p ++ "/./" ++ q) = components (p ++ "/" ++ q) := by
  have hslashes : "/./" = "/" ++ ("." ++ "/") := rfl
  have hsplit : p ++ "/./" ++ q = p ++ "/" ++ ("." ++ "/" ++ q) := by
    simp only [hslashes, String.append_assoc]
  rw [hsplit, components_skip inner_dot]

/-! ## Joining -/

/-- A text is a name: it is not empty, has no slash, and is neither `.` nor `..`. -/
structure IsName (s : String) : Prop where
  nonempty : s ≠ ""
  noSlash : '/' ∉ s.toList
  not_current : s ≠ "."
  not_parent : s ≠ ".."

theorem inner_of_isName {s : String} (h : IsName s) : inner s = [.name s] := by
  have hnone : ∀ c ∈ s.toList, (c == '/') = false := by
    intro c hc
    rw [beq_eq_false_iff_ne]
    rintro rfl
    exact h.noSlash hc
  have hpieces : pieces s = [s] := by
    rw [pieces, Text.pieces_of_forall_not hnone, List.map_singleton, String.ofList_toList]
  have hvoid : ¬(s = "" ∨ s = ".") := fun hor => hor.elim h.nonempty h.not_current
  rw [inner, hpieces, List.filterMap_cons, component?, if_neg hvoid, if_neg h.not_parent]
  rfl

/-- **A joined name is one more component.** -/
theorem components_join {path name : String} (hpath : path ≠ "") (hname : IsName name) :
    components (join path name) = components path ++ [.name name] := by
  rw [← inner_of_isName hname, ← components_slash_end hpath, ← components_append_slash, join, if_neg hpath]
  by_cases hslash : Text.endsWith path "/" = true
  · -- the path already ends with a slash, and one more makes no difference
    obtain ⟨before, hbefore⟩ := List.isSuffixOf_iff_suffix.mp hslash
    have hsplit : path = String.ofList before ++ "/" := by
      rw [← String.toList_inj, String.toList_append, String.toList_ofList]
      exact hbefore.symm
    have hends : components (path ++ "/" ++ name) = components path ++ inner name := by
      rw [components_append_slash, components_slash_end hpath]
    rw [if_pos hslash, hends, hsplit, components_append_slash]
  · rw [if_neg hslash]

end LayerLint.Path
