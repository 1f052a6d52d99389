import LayerLint.Toml.Document
import Mathlib.Data.List.Basic

/-!
# `Proofs.TomlTables` — tables from entries in any order

Dotted keys and headers put items into tables inside tables, which come about on the way. Where no key
continues another one nothing is ever in the way, and an item under a single name is found there afterwards,
whatever the order.

## Contents
- **Keys.** `Apart`: neither key continues the other.
- **Places.** `Entries.put`, and `Entries.Free`: when nothing is in the way. Putting an item leaves every
  place free that is apart from it.
- **Building.** `Entries.addEntry` and `Entries.openTable` put an item at a free place.
- **Many items.** `Entries.putAll`, inline tables, and the statements of a section.
-/

namespace LayerLint.Toml

/-! ## Keys -/

/-- **Neither key continues the other.** -/
def Apart (a b : List String) : Prop := ¬a <+: b ∧ ¬b <+: a

theorem apart_cons_iff {j k : String} {a b : List String} :
    Apart (j :: a) (k :: b) ↔ j ≠ k ∨ j = k ∧ Apart a b := by
  by_cases h : j = k
  · simp [Apart, h, List.cons_prefix_cons]
  · have h' : k ≠ j := fun heq => h heq.symm
    simp [Apart, h, h', List.cons_prefix_cons]

theorem Apart.ne_nil {a b : List String} (h : Apart a b) : a ≠ [] ∧ b ≠ [] := by
  constructor
  · rintro rfl
    exact h.1 List.nil_prefix
  · rintro rfl
    exact h.2 List.nil_prefix

/-! ## Places -/

namespace Entries

@[simp] theorem lookup_set_self (es : Entries) (k : String) (item : Item) :
    (es.set k item).lookup k = some item := by
  induction es with
  | nil => simp [set]
  | cons e es ih =>
      obtain ⟨j, old⟩ := e
      by_cases hj : j = k
      · simp [set, hj]
      · have hne : (k == j) = false := beq_eq_false_iff_ne.mpr fun h => hj h.symm
        simp [set, hj, List.lookup_cons, hne, ih]

theorem lookup_set_of_ne {j k : String} (h : j ≠ k) (es : Entries) (item : Item) :
    (es.set k item).lookup j = es.lookup j := by
  have hne : (j == k) = false := beq_eq_false_iff_ne.mpr h
  induction es with
  | nil => simp [set, List.lookup_cons, hne]
  | cons e es ih =>
      obtain ⟨i, old⟩ := e
      by_cases hi : i = k
      · simp [set, hi, List.lookup_cons, hne]
      · simp [set, hi, List.lookup_cons, ih]

@[simp] theorem set_set (es : Entries) (k : String) (a b : Item) : (es.set k a).set k b = es.set k b := by
  induction es with
  | nil => simp [set]
  | cons e es ih =>
      obtain ⟨j, old⟩ := e
      by_cases hj : j = k
      · simp [set, hj]
      · simp [set, hj, ih]

/-- A name that has no item gets one at the end. -/
theorem set_of_lookup_eq_none {es : Entries} {k : String} (h : es.lookup k = none) (item : Item) :
    es.set k item = es ++ [(k, item)] := by
  induction es with
  | nil => rfl
  | cons e es ih =>
      obtain ⟨j, old⟩ := e
      by_cases hj : j = k
      · simp [hj] at h
      · have hne : (k == j) = false := beq_eq_false_iff_ne.mpr fun heq => hj heq.symm
        rw [List.lookup_cons, hne] at h
        simp [set, hj, ih h]

/-- The entries of the table a name stands for. -/
def inner (es : Entries) (k : String) : Entries :=
  match es.lookup k with
  | some (.table _ inner) => inner
  | _ => []

/-- Puts an item under a key; the tables on the way have one form. -/
def put (form : Form) (item : Item) : List String → Entries → Entries
  | [], es => es
  | [k], es => es.set k item
  | k :: j :: path, es => es.set k (.table form (put form item (j :: path) (es.inner k)))

/-- **The place under a key is free**: its last name is new in the table before it, and the tables on the way
are missing or have the given form. -/
def Free (form : Form) : List String → Entries → Prop
  | [], _ => False
  | k :: path, es =>
      match es.lookup k with
      | none => True
      | some (.table f inner) => f = form ∧ Free form path inner
      | some _ => False

variable {form : Form} {item : Item}

theorem free_nil {key : List String} (h : key ≠ []) : Free form key [] := by
  cases key with
  | nil => exact absurd rfl h
  | cons k path => trivial

/-- Below a free place too the way is free. -/
theorem Free.inner {k : String} {path : List String} {es : Entries} (h : Free form (k :: path) es)
    (hpath : path ≠ []) : Free form path (es.inner k) := by
  rw [Free] at h
  rw [Entries.inner]
  split at h
  · next hnone =>
      rw [hnone]
      exact free_nil hpath
  · next hsome =>
      rw [hsome]
      exact h.2
  · exact h.elim

theorem lookup_put_of_ne {j k : String} (h : j ≠ k) (path : List String) (es : Entries) :
    (put form item (k :: path) es).lookup j = es.lookup j := by
  cases path with
  | nil => exact lookup_set_of_ne h es item
  | cons i path => exact lookup_set_of_ne h es _

/-- **Putting an item takes no place that is apart from it.** -/
theorem Free.put {a b : List String} (h : Apart a b) {es : Entries} (hfree : Free form b es) :
    Free form b (put form item a es) := by
  induction a generalizing b es with
  | nil => exact hfree
  | cons j a ih =>
      cases b with
      | nil => exact hfree.elim
      | cons k b =>
          rcases apart_cons_iff.mp h with hne | ⟨rfl, hrest⟩
          · have hlookup : (Entries.put form item (j :: a) es).lookup k = es.lookup k :=
              lookup_put_of_ne (fun heq => hne heq.symm) a es
            rw [Free, hlookup]
            exact hfree
          · -- both keys go on below the same table, and neither ends there
            obtain ⟨ha, hb⟩ := hrest.ne_nil
            obtain ⟨i, a, rfl⟩ := List.exists_cons_of_ne_nil ha
            rw [Entries.put, Free, lookup_set_self]
            exact ⟨rfl, ih hrest (hfree.inner hb)⟩

/-! ## Building -/

/-- **Changing the table before a free place** so that it has the last name puts the item there. The change
is told the form of that table: the form of the tables on the way, if there are any. -/
theorem update_eq_put {isDotted : Bool} {f : Form → Entries → Option Entries} {k : String} {item : Item} :
    ∀ {path : List String} {start : Form} {es : Entries},
      (∀ es : Entries, es.lookup k = none →
        f (if path = [] then start else if isDotted then .dotted else .implied) es = some (es.set k item)) →
      Free (if isDotted then .dotted else .implied) (path ++ [k]) es →
      update isDotted f path start es = some (put (if isDotted then .dotted else .implied) item (path ++ [k]) es)
  | [], start, es, hf, hfree => by
      have hnone : es.lookup k = none := by
        rw [List.nil_append, Free] at hfree
        split at hfree
        · assumption
        · exact hfree.2.elim
        · exact hfree.elim
      exact hf es hnone
  | j :: path, start, es, hf, hfree => by
      have hinner : Free (if isDotted then .dotted else .implied) (path ++ [k]) (es.inner j) :=
        hfree.inner (by simp)
      have hnext : update isDotted f path (if isDotted then .dotted else .implied) (es.inner j) =
          some (put (if isDotted then .dotted else .implied) item (path ++ [k]) (es.inner j)) :=
        update_eq_put (fun es hes => by simpa using hf es hes) hinner
      have hput : put (if isDotted then .dotted else .implied) item (j :: (path ++ [k])) es =
          es.set j (.table (if isDotted then .dotted else .implied)
            (put (if isDotted then .dotted else .implied) item (path ++ [k]) (es.inner j))) := by
        cases path <;> rfl
      rw [List.cons_append, hput]
      rw [List.cons_append, Free] at hfree
      rw [update]
      split at hfree
      · next hnone =>
          rw [hnone]
          rw [inner, hnone] at hnext ⊢
          cases isDotted <;> simp_all
      · next hsome =>
          rw [hsome]
          rw [inner, hsome] at hnext ⊢
          obtain ⟨rfl, -⟩ := hfree
          cases isDotted <;> simp_all
      · exact hfree.elim

theorem addEntry_eq_put {path : List String} {k : String} {v : Value} {es : Entries}
    (h : Free .dotted (path ++ [k]) es) :
    addEntry path k v .header es = some (put .dotted (.value v) (path ++ [k]) es) := by
  unfold addEntry
  refine @update_eq_put true _ _ _ _ _ _ (fun es hes => ?_) h
  cases path <;> simp [hes]

theorem openTable_eq_put {path : List String} {k : String} {es : Entries} (h : Free .implied (path ++ [k]) es) :
    openTable path k es = some (put .implied (.table .header []) (path ++ [k]) es) := by
  unfold openTable
  refine @update_eq_put false _ _ _ _ _ _ (fun es hes => ?_) h
  simp [hes]

/-- **Changing a table that was opened**, with a header at the end of the path. -/
theorem update_put {f : Form → Entries → Option Entries} {inside changed : Entries}
    (hf : f .header inside = some changed) :
    ∀ {path : List String} {start : Form} {es : Entries}, path ≠ [] →
      update false f path start (put .implied (.table .header inside) path es) =
        some (put .implied (.table .header changed) path es)
  | [k], start, es, _ => by
      simp [put, update, hf]
  | k :: j :: path, start, es, _ => by
      have hnext : update false f (j :: path) .implied
            (put .implied (.table .header inside) (j :: path) (es.inner k)) =
          some (put .implied (.table .header changed) (j :: path) (es.inner k)) :=
        update_put hf (List.cons_ne_nil j path)
      rw [put, update, lookup_set_self]
      simp [hnext, put]

/-! ## Many items -/

/-- Puts items under keys, one after the other. -/
def putAll (form : Form) (items : List (List String × Item)) (es : Entries) : Entries :=
  items.foldl (fun es e => put form e.2 e.1 es) es

@[simp] theorem putAll_cons (e : List String × Item) (items : List (List String × Item)) (es : Entries) :
    putAll form (e :: items) es = putAll form items (put form e.2 e.1 es) := rfl

/-- A name that no key starts with keeps its item. -/
theorem lookup_putAll_of_ne {k : String} {items : List (List String × Item)}
    (h : ∀ e ∈ items, e.1.head? ≠ some k) (es : Entries) : (putAll form items es).lookup k = es.lookup k := by
  induction items generalizing es with
  | nil => rfl
  | cons e items ih =>
      obtain ⟨he, hitems⟩ := List.forall_mem_cons.mp h
      rw [putAll_cons, ih hitems]
      cases hkey : e.1 with
      | nil => rfl
      | cons j path =>
          refine lookup_put_of_ne (fun heq => he ?_) path es
          rw [hkey, heq]
          rfl

/-- **An item is found under its name**, whatever else is put before and after it. -/
theorem lookup_putAll_of_mem {k : String} {items : List (List String × Item)}
    (hapart : (items.map (·.1)).Pairwise Apart) (h : ([k], item) ∈ items) (es : Entries) :
    (putAll form items es).lookup k = some item := by
  obtain ⟨before, after, rfl⟩ := List.append_of_mem h
  -- no later key starts with the name, since it would continue the name
  have hafter : ∀ e ∈ after, e.1.head? ≠ some k := by
    intro e he hhead
    rw [List.map_append, List.pairwise_append, List.map_cons, List.pairwise_cons] at hapart
    obtain ⟨path, hpath⟩ := List.head?_eq_some_iff.mp hhead
    refine (hapart.2.1.1 e.1 (List.mem_map_of_mem he)).1 ⟨path, ?_⟩
    rw [hpath]
    rfl
  have hsplit : putAll form (before ++ ([k], item) :: after) es =
      putAll form after (put form item [k] (putAll form before es)) := List.foldl_append ..
  rw [hsplit, lookup_putAll_of_ne hafter, put, lookup_set_self]

end Entries

open Entries

/-- Entries with values under keys. -/
abbrev Body := List (List String × Value)

/-- The values as items. -/
def Body.items (body : Body) : List (List String × Item) := body.map fun e => (e.1, .value e.2)

/-- **The entries can stand in one table**: each has a key, and no key continues another one. -/
structure Body.Compatible (body : Body) : Prop where
  named : ∀ e ∈ body, e.1 ≠ []
  apart : (body.map (·.1)).Pairwise Apart

/-- The table that the entries make. -/
def Body.entries (body : Body) : Entries := putAll .dotted body.items []

/-- Adds an entry under a key. -/
def addUnder (key : List String) (v : Value) (es : Entries) : Option Entries :=
  match key.getLast? with
  | some k => addEntry key.dropLast k v .header es
  | none => none

theorem addUnder_eq_put {key : List String} {v : Value} {es : Entries} (h : Free .dotted key es) :
    addUnder key v es = some (put .dotted (.value v) key es) := by
  cases hlast : key.getLast? with
  | none =>
      rw [List.getLast?_eq_none_iff] at hlast
      subst hlast
      exact h.elim
  | some k =>
      have hkey : key.dropLast ++ [k] = key := List.dropLast_append_getLast? k hlast
      rw [← hkey] at h
      rw [addUnder, hlast]
      dsimp only
      rw [addEntry_eq_put h, hkey]

/-- **Compatible entries are added in any order**, to a table where their places are free. -/
theorem foldlM_addUnder {body : Body} (h : body.Compatible) {es : Entries}
    (hfree : ∀ e ∈ body, Free .dotted e.1 es) :
    body.foldlM (fun es e => addUnder e.1 e.2 es) es = some (putAll .dotted body.items es) := by
  induction body generalizing es with
  | nil => rfl
  | cons e body ih =>
      obtain ⟨hfirst, hrest⟩ := List.forall_mem_cons.mp hfree
      obtain ⟨hnamed, hapart⟩ := h
      rw [List.map_cons, List.pairwise_cons] at hapart
      have hcompatible : Body.Compatible body :=
        ⟨fun e he => hnamed e (.tail _ he), hapart.2⟩
      -- the first entry leaves the places of the others free
      have hstill : ∀ e' ∈ body, Free .dotted e'.1 (put .dotted (.value e.2) e.1 es) :=
        fun e' he' => (hrest e' he').put (hapart.1 _ (List.mem_map_of_mem he'))
      rw [List.foldlM_cons, addUnder_eq_put hfirst]
      exact ih hcompatible hstill

/-- **Compatible entries make an inline table.** -/
theorem inlineTable_eq_some {body : Body} (h : body.Compatible) :
    inlineTable body = some (.table (entryValues body.entries)) := by
  have hall := foldlM_addUnder h fun e he => free_nil (h.named e he)
  show (body.foldlM (fun es e => addUnder e.1 e.2 es) [] >>= fun es => some (Value.table (entryValues es))) = _
  rw [hall]
  rfl

/-! ## Sections -/

/-- A header and the entries after it. -/
structure Section where
  path : List String
  body : Body

namespace Section

/-- The statements of a section. -/
def statements (s : Section) : List Statement := .header s.path :: s.body.map fun e => .entry e.1 e.2

/-- The table of a section, under its path. -/
def item (s : Section) : List String × Item := (s.path, .table .header s.body.entries)

/-- An entry is added to the table that was opened last. -/
theorem foldlM_add_entries {path : List String} (hpath : path ≠ []) {body : Body} {es changed root : Entries}
    (h : body.foldlM (fun es e => addUnder e.1 e.2 es) es = some changed) :
    (body.map fun e => Statement.entry e.1 e.2).foldlM Builder.add
        ⟨put .implied (.table .header es) path root, path⟩ =
      some ⟨put .implied (.table .header changed) path root, path⟩ := by
  induction body generalizing es with
  | nil =>
      obtain rfl : es = changed := Option.some.inj h
      rfl
  | cons e body ih =>
      rw [List.foldlM_cons] at h
      obtain ⟨next, hnext, hrest⟩ := Option.bind_eq_some_iff.mp h
      have hadd : Builder.add ⟨put .implied (.table .header es) path root, path⟩ (.entry e.1 e.2) =
          some ⟨put .implied (.table .header next) path root, path⟩ := by
        unfold addUnder at hnext
        split at hnext
        · next k hk =>
            have hupdate : Entries.update false (addEntry e.1.dropLast k e.2) path .header
                  (put .implied (.table .header es) path root) =
                some (put .implied (.table .header next) path root) :=
              update_put hnext hpath
            simp [Builder.add, hk, hupdate]
        · cases hnext
      rw [List.map_cons, List.foldlM_cons, hadd]
      exact ih hrest

/-- **The statements of a section** put its table at its path, if that is free. -/
theorem foldlM_add {s : Section} (hbody : s.body.Compatible) {b : Builder} (hfree : Free .implied s.path b.root) :
    s.statements.foldlM Builder.add b = some ⟨put .implied s.item.2 s.path b.root, s.path⟩ := by
  have hpath : s.path ≠ [] := by
    intro hnil
    rw [hnil] at hfree
    exact hfree.elim
  obtain ⟨k, hk⟩ := List.getLast?_isSome.mpr hpath |> Option.isSome_iff_exists.mp
  have hsplit : s.path.dropLast ++ [k] = s.path := List.dropLast_append_getLast? k hk
  have hopen : b.add (.header s.path) = some ⟨put .implied (.table .header []) s.path b.root, s.path⟩ := by
    have hput : openTable s.path.dropLast k b.root =
        some (put .implied (.table .header []) (s.path.dropLast ++ [k]) b.root) :=
      openTable_eq_put (hsplit.symm ▸ hfree)
    rw [hsplit] at hput
    simp [Builder.add, hk, hput]
  have hall := foldlM_addUnder hbody fun e he => free_nil (hbody.named e he)
  rw [statements, List.foldlM_cons, hopen]
  exact foldlM_add_entries hpath hall

end Section

/-- Sections add their tables one after the other. -/
theorem foldlM_add_sections {sections : List Section} (hbody : ∀ s ∈ sections, s.body.Compatible)
    (hapart : (sections.map (·.path)).Pairwise Apart) {b : Builder}
    (hfree : ∀ s ∈ sections, Free .implied s.path b.root) :
    ∃ path, (sections.flatMap (·.statements)).foldlM Builder.add b =
      some ⟨putAll .implied (sections.map (·.item)) b.root, path⟩ := by
  induction sections generalizing b with
  | nil => exact ⟨b.path, rfl⟩
  | cons s sections ih =>
      obtain ⟨hbody, hbodies⟩ := List.forall_mem_cons.mp hbody
      obtain ⟨hfirst, hrest⟩ := List.forall_mem_cons.mp hfree
      rw [List.map_cons, List.pairwise_cons] at hapart
      have hstill : ∀ s' ∈ sections, Free .implied s'.path (put .implied s.item.2 s.path b.root) :=
        fun s' hs' => (hrest s' hs').put (hapart.1 _ (List.mem_map_of_mem hs'))
      obtain ⟨path, hpath⟩ :=
        ih hbodies hapart.2 (b := ⟨put .implied s.item.2 s.path b.root, s.path⟩) hstill
      refine ⟨path, ?_⟩
      rw [List.flatMap_cons, List.foldlM_append, s.foldlM_add hbody hfirst]
      exact hpath

/-- **The statements of sections** build the table that has each of theirs, in any order, if no path continues
another one. -/
theorem build_sections {sections : List Section} (hbody : ∀ s ∈ sections, s.body.Compatible)
    (hnamed : ∀ s ∈ sections, s.path ≠ []) (hapart : (sections.map (·.path)).Pairwise Apart) :
    build (sections.flatMap (·.statements)) =
      some (entryValues (putAll .implied (sections.map (·.item)) [])) := by
  obtain ⟨path, hpath⟩ :=
    foldlM_add_sections hbody hapart (b := {}) fun s hs => free_nil (hnamed s hs)
  rw [build, hpath]
  rfl

/-! ## Values -/

theorem entryValues_eq_map (es : Entries) : entryValues es = es.map fun e => (e.1, e.2.toValue) := by
  induction es with
  | nil => rfl
  | cons e es ih => rw [entryValues, ih, List.map_cons]

theorem lookup_entryValues (es : Entries) (k : String) :
    (entryValues es).lookup k = (es.lookup k).map Item.toValue := by
  induction es with
  | nil => rfl
  | cons e es ih =>
      rw [entryValues, List.lookup_cons, List.lookup_cons, ih]
      split <;> rfl

end LayerLint.Toml
