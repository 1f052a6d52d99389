import LayerLint.Proofs.Calls
import LayerLint.Proofs.Interleavings
import LayerLint.Proofs.Offsets
import LayerLint.Proofs.Paths
import Mathlib.Data.List.Lex
import Mathlib.Data.Prod.Lex
import Mathlib.Data.String.Basic

/-!
# `Proofs.SortKeys` — the order of findings is an order of keys

Findings are compared by a chain of comparisons: of their paths, component by component, of two numbers and of two
texts. Each of them is the comparison of some key in a linear order, and so is their chain. The order of findings
is thus pulled back from a linear order. Distinct findings may have one key, so it is a preorder only, and what
stands between them in the result is decided by where they came from.

Texts are compared character by character. This is the order of their UTF-8 bytes as well, since the form of a
greater character is greater at the first byte that differs.

## Contents
- **Keys.** `ComparesBy`, a comparison by a key; its laws for chains and for lists.
- **Bytes.** `Text.codes`, and that they keep the order of texts (`Text.codes_strictMono`).
- **Findings.** `Diagnostic.sortKey`, `Diagnostic.le_iff`.
- **Sorting in parts.** `Diagnostic.sort_flatMap_sort`.
- **Result.** `sorting_in_parts`.
-/

namespace LayerLint

/-! ## Keys -/

/-- **A comparison by a key**: it says of two values what a linear order says of their keys. -/
structure ComparesBy {α κ : Type} [LinearOrder κ] (c : α → α → Ordering) (key : α → κ) : Prop where
  lt {a b : α} : c a b = .lt ↔ key a < key b
  eq {a b : α} : c a b = .eq ↔ key a = key b

namespace ComparesBy

variable {α β κ μ : Type} [LinearOrder κ] [LinearOrder μ]
variable {c : α → α → Ordering} {d : α → α → Ordering} {key : α → κ} {key' : α → μ}

theorem on (h : ComparesBy c key) (f : β → α) : ComparesBy (fun x y => c (f x) (f y)) (key ∘ f) where
  lt := h.lt
  eq := h.eq

/-- One comparison after the other is a comparison by pairs. -/
theorem chain (h : ComparesBy c key) (h' : ComparesBy d key') :
    ComparesBy (fun a b => (c a b).then (d a b)) fun a => toLex (key a, key' a) where
  lt := by
    intro a b
    rw [Ordering.then_eq_lt, Prod.Lex.toLex_lt_toLex, h.lt, h.eq, h'.lt]
  eq := by
    intro a b
    rw [Ordering.then_eq_eq, toLex_inj, Prod.mk.injEq, h.eq, h'.eq]

/-- Lists are compared element by element, and a list that goes on is greater. -/
theorem list (h : ComparesBy c key) : ComparesBy (List.compareLex c) (List.map key) where
  lt := by
    intro as bs
    induction as generalizing bs with
    | nil =>
        cases bs with
        | nil => exact ⟨nofun, fun hlt => absurd hlt (lt_irrefl _)⟩
        | cons b bs => exact ⟨fun _ => List.nil_lt_cons _ _, fun _ => rfl⟩
    | cons a as ih =>
        cases bs with
        | nil => exact ⟨nofun, nofun⟩
        | cons b bs =>
            rw [List.compareLex_cons_cons, Ordering.then_eq_lt, List.map_cons, List.map_cons, List.cons_lt_cons_iff,
              h.lt, h.eq, ih]
  eq := by
    intro as bs
    induction as generalizing bs with
    | nil =>
        cases bs with
        | nil => exact ⟨fun _ => rfl, fun _ => rfl⟩
        | cons b bs => exact ⟨nofun, nofun⟩
    | cons a as ih =>
        cases bs with
        | nil => exact ⟨nofun, nofun⟩
        | cons b bs =>
            rw [List.compareLex_cons_cons, Ordering.then_eq_eq, List.map_cons, List.map_cons, List.cons.injEq, h.eq, ih]

/-- The comparison is less or equal exactly if the keys are. -/
theorem isLE_iff (h : ComparesBy c key) {a b : α} : (c a b).isLE ↔ key a ≤ key b := by
  rw [le_iff_lt_or_eq, ← h.lt, ← h.eq]
  cases c a b <;> decide

end ComparesBy

/-- Numbers are their own keys. -/
theorem comparesBy_nat : ComparesBy (Ord.compare : Nat → Nat → Ordering) id where
  lt := Nat.compare_eq_lt
  eq := Nat.compare_eq_eq

/-! ## Bytes -/

namespace Text

/-- The UTF-8 bytes of a text, as numbers. -/
def codes (s : List Char) : List Nat := (bytes s).map UInt8.toNat

/-- The UTF-8 form of a code point, as numbers: a first byte by length, and six bits in each byte behind it. -/
def pointCodes (v : Nat) : List Nat :=
  if v ≤ 127 then [v]
  else if v ≤ 2047 then [v / 64 + 192, v % 64 + 128]
  else if v ≤ 65535 then [v / 64 / 64 + 224, v / 64 % 64 + 128, v % 64 + 128]
  else [v / 64 / 64 / 64 + 240, v / 64 / 64 % 64 + 128, v / 64 % 64 + 128, v % 64 + 128]

theorem codes_cons (c : Char) (s : List Char) : codes (c :: s) = pointCodes c.val.toNat ++ codes s := by
  have hvalid : c.val.toNat < 0x110000 := by
    rcases c.valid with h | h
    · exact Nat.lt_trans h (by decide)
    · exact h.2
  have hform : (String.utf8EncodeChar c).map UInt8.toNat = pointCodes c.val.toNat := by
    unfold String.utf8EncodeChar pointCodes
    dsimp only
    generalize c.val.toNat = v at *
    -- below the bound on code points the first byte never overflows
    split
    · simp only [List.map_cons, List.map_nil, UInt8.toNat_ofNat', List.cons.injEq, and_true, Nat.reducePow]
      omega
    · split
      · simp only [List.map_cons, List.map_nil, UInt8.toNat_ofNat', List.cons.injEq, and_true, Nat.reducePow]
        omega
      · split
        · simp only [List.map_cons, List.map_nil, UInt8.toNat_ofNat', List.cons.injEq, and_true, Nat.reducePow]
          omega
        · simp only [List.map_cons, List.map_nil, UInt8.toNat_ofNat', List.cons.injEq, and_true, Nat.reducePow]
          omega
  rw [codes, bytes_cons, List.map_append, hform]
  rfl

/-- The form of a greater code point is greater at the first byte that differs, whatever follows. -/
theorem pointCodes_append_lt {v w : Nat} (h : v < w) (x y : List Nat) : pointCodes v ++ x < pointCodes w ++ y := by
  -- a longer form has a greater first byte; within one length the six-bit digits are compared from the first on
  unfold pointCodes
  split_ifs
  all_goals
    simp only [List.cons_append, List.nil_append, List.cons_lt_cons_iff]
    omega

/-- **The order of texts is the order of their bytes.** -/
theorem codes_strictMono : StrictMono codes := by
  intro s t h
  induction s generalizing t with
  | nil =>
      cases t with
      | nil => exact absurd h (lt_irrefl _)
      | cons d t =>
          have hne : pointCodes d.val.toNat ≠ [] := by
            unfold pointCodes
            split_ifs <;> exact List.cons_ne_nil _ _
          obtain ⟨b, bs, hb⟩ := List.exists_cons_of_ne_nil hne
          rw [codes_cons, hb]
          exact List.nil_lt_cons _ _
  | cons c s ih =>
      cases t with
      | nil => exact absurd h (List.not_lt_nil _)
      | cons d t =>
          rw [codes_cons, codes_cons]
          rcases List.cons_lt_cons_iff.mp h with hlt | ⟨rfl, hlt⟩
          · exact pointCodes_append_lt hlt _ _
          · exact List.append_left_lt (ih hlt)

end Text

/-- Texts are compared by their bytes. -/
theorem comparesBy_codes : ComparesBy (Ord.compare : String → String → Ordering) fun s => Text.codes s.toList where
  lt := by
    intro s t
    rw [Text.codes_strictMono.lt_iff_lt, ← String.lt_iff_toList_lt]
    exact compare_lt_iff_lt
  eq := by
    intro s t
    rw [Text.codes_strictMono.injective.eq_iff, String.toList_inj]
    exact compare_eq_iff_eq

/-! ## Findings -/

/-- The key of a component: its form, and the bytes of a name. -/
def Component.sortKey : Component → ℕ ×ₗ List ℕ
  | root => toLex (0, [])
  | current => toLex (1, [])
  | parent => toLex (2, [])
  | name s => toLex (3, Text.codes s.toList)

theorem Component.comparesBy_sortKey : ComparesBy Component.compare Component.sortKey := by
  have hkey : Component.sortKey = fun c => toLex (c.rank, Text.codes c.nameText.toList) := by
    funext c
    cases c <;> rfl
  rw [hkey]
  exact (comparesBy_nat.on rank).chain (comparesBy_codes.on nameText)

/-- **The key of a finding**: the keys of the components of its file, its line and its column, and the bytes of its
code and of its message. -/
def Diagnostic.sortKey (d : Diagnostic) : List (ℕ ×ₗ List ℕ) ×ₗ ℕ ×ₗ ℕ ×ₗ List ℕ ×ₗ List ℕ :=
  toLex ((Path.components d.location.file).map Component.sortKey, toLex (d.location.line,
    toLex (d.location.column, toLex (Text.codes d.code.toList, Text.codes d.message.toList))))

namespace Diagnostic

theorem comparesBy_sortKey : ComparesBy Diagnostic.compare sortKey :=
  (Component.comparesBy_sortKey.list.on fun d : Diagnostic => Path.components d.location.file).chain <|
    (comparesBy_nat.on fun d : Diagnostic => d.location.line).chain <|
      (comparesBy_nat.on fun d : Diagnostic => d.location.column).chain <|
        (comparesBy_codes.on fun d : Diagnostic => d.code).chain (comparesBy_codes.on fun d : Diagnostic => d.message)

/-- **Findings stand in the order of their keys.** -/
theorem le_iff {a b : Diagnostic} : le a b ↔ a.sortKey ≤ b.sortKey := comparesBy_sortKey.isLE_iff

/-! ## Sorting in parts -/

/-- Parts that are sorted, and then all together: the same as all at once. -/
theorem sort_flatMap_sort {ι : Type} (parts : List ι) (f : ι → List Diagnostic) :
    sort (parts.flatMap fun i => sort (f i)) = sort (parts.flatMap f) := by
  rw [sort_eq_sort_iff]
  intro d
  rw [List.filter_flatMap, List.filter_flatMap]
  exact List.flatMap_congr fun i _ => filter_ties_sort d (f i)

theorem sort_append_sort (xs ys : List Diagnostic) : sort (sort xs ++ sort ys) = sort (xs ++ ys) := by
  have h := sort_flatMap_sort [xs, ys] id
  simpa using h

end Diagnostic

/-- What the rules find in a unit and is kept, in the order in which it arises. -/
def Setup.emitted (s : Setup) (u : CompilationUnit × Model) : List Diagnostic := (s.calls u.1 u.2).flatMap s.kept

theorem Setup.findings_eq_sort {s : Setup} {u : CompilationUnit × Model} (h : s.analyzer.finishes u = true) :
    s.analyzer.findings u = Diagnostic.sort (s.emitted u) := by
  unfold Analyzer.finishes at h
  unfold Analyzer.findings
  cases hu : s.analyzer.analyzeUnit u.1 u.2 with
  | error e => rw [hu] at h; cases h
  | ok ds => exact (s.analyzeUnit_eq_ok_iff.mp hu).2

/-! ## Result -/

open Workers Diagnostic in
/-- **Sorting in parts is sorting.** Findings are compared by their keys, which are in a linear order; different
spellings of a path have one key. So the order is a total preorder, and stable sorting has exactly one result. Hence
parts may be sorted before the whole: at each moment of a run of the workers, the sink sorts to what one sort makes
of everything the rules found in the units that reported, in the order of the reports. -/
theorem sorting_in_parts :
    (∀ a b : Diagnostic, le a b ↔ a.sortKey ≤ b.sortKey) ∧
    ((∀ p q, Path.components (p ++ "//" ++ q) = Path.components (p ++ "/" ++ q)) ∧
      (∀ p q, Path.components (p ++ "/./" ++ q) = Path.components (p ++ "/" ++ q)) ∧
      ∀ p ≠ "", Path.components (p ++ "/") = Path.components p) ∧
    ((∀ a, le a a) ∧ (∀ a b c, le a b → le b c → le a c) ∧ ∀ a b, le a b ∨ le b a) ∧
    (∀ ds sorted, IsStableSort ds sorted ↔ sorted = sort ds) ∧
    (∀ xs ys, sort (sort xs ++ sort ys) = sort (xs ++ ys)) ∧
    ∀ (s : Setup) (a : Analyzer), s.build = .ok a → ∀ units cancelled trace state,
      Run a units (State.initial units.length cancelled) trace state →
        state.sink.sorted = sort ((reportOrder trace).flatMap fun i => s.emitted (units.get i)) := by
  refine ⟨fun a b => le_iff, ⟨Path.components_slash_slash, Path.components_slash_dot,
    fun p => Path.components_slash_end⟩, ⟨le_refl, le_trans, fun a b => ?_⟩, fun ds sorted => isStableSort_iff,
    sort_append_sort, ?_⟩
  · rw [← Bool.or_eq_true]
    exact le_total a b
  · intro s a hbuild units cancelled trace state hrun
    obtain ⟨-, rfl⟩ := s.build_eq_ok_iff.mp hbuild
    -- only units that finish report, and each of them reports a part that is sorted
    have hpart : ∀ i ∈ reportOrder trace,
        s.analyzer.findings (units.get i) = sort (s.emitted (units.get i)) := by
      intro i hi
      have hchecked := hrun.inv.mem_checked_of_report (mem_reportOrder.mp hi)
      exact s.findings_eq_sort (mem_checked.mp hchecked).2
    rw [Sink.sorted, hrun.inv.sink, List.flatMap_congr hpart, sort_flatMap_sort]

end LayerLint
