/-!
# `IdMap` — finite maps on 32-bit ids

A map lists its entries in strictly ascending order of ids, so each id has at most one value and two
maps with the same values are equal (`IdMap.ext`).

## Contents
- **Maps.** `Id`, `IdMap`, `IdMap.empty`, `IdMap.get?`.
- **Updates.** `IdMap.insert` replaces, `IdMap.ofList` inserts one by one, so the last value of an id
  wins; `IdMap.get?_insert` is their law.
- **Entries.** `IdMap.get?_eq_some_iff`: an id has the value it is listed with; a map is put together
  from its entries in any order (`IdMap.ofList_eq_of_perm`).
-/

namespace LayerLint

/-! ## Maps -/

/-- Identity of a node or a symbol. -/
abbrev Id := UInt32

/-- A finite map from ids to values, in ascending order of ids. -/
structure IdMap (α : Type) where
  entries : List (Id × α)
  ascending : entries.Pairwise fun a b => a.1 < b.1

namespace IdMap

variable {α β : Type}

/-- The map without entries. -/
def empty : IdMap α := ⟨[], .nil⟩

instance : Inhabited (IdMap α) := ⟨empty⟩

instance : EmptyCollection (IdMap α) := ⟨empty⟩

/-- The value of `k` in a list of entries. -/
def find? (k : Id) : List (Id × α) → Option α
  | [] => none
  | (i, a) :: rest => if i = k then some a else find? k rest

/-- The value of an id. -/
def get? (m : IdMap α) (k : Id) : Option α := find? k m.entries

/-! ## Updates -/

/-- Puts an entry at its place in an ascending list, in the stead of one with the same id. -/
def place (k : Id) (a : α) : List (Id × α) → List (Id × α)
  | [] => [(k, a)]
  | (i, b) :: rest =>
      if k < i then (k, a) :: (i, b) :: rest
      else if k = i then (k, a) :: rest
      else (i, b) :: place k a rest

/-- The ids of `place k a l` are `k` and those of `l`. -/
theorem mem_place {k : Id} {a : α} {l : List (Id × α)} {e : Id × α} (h : e ∈ place k a l) :
    e = (k, a) ∨ e ∈ l := by
  induction l with
  | nil => simpa [place] using h
  | cons x l ih =>
      obtain ⟨i, b⟩ := x
      simp only [place] at h
      split at h
      · simpa using h
      · split at h
        · rcases List.mem_cons.1 h with h | h
          · exact .inl h
          · exact .inr (List.mem_cons_of_mem _ h)
        · rcases List.mem_cons.1 h with h | h
          · exact .inr (by simp [h])
          · exact (ih h).imp id (List.mem_cons_of_mem _)

theorem pairwise_place {k : Id} {a : α} {l : List (Id × α)}
    (h : l.Pairwise fun a b => a.1 < b.1) : (place k a l).Pairwise fun a b => a.1 < b.1 := by
  induction l with
  | nil => simp [place]
  | cons x l ih =>
      obtain ⟨i, b⟩ := x
      obtain ⟨hx, hl⟩ := List.pairwise_cons.1 h
      simp only [place]
      split
      · next hki =>
          refine List.pairwise_cons.2 ⟨fun e he => ?_, h⟩
          rcases List.mem_cons.1 he with rfl | he
          · exact hki
          · exact UInt32.lt_trans hki (hx e he)
      · split
        · next hki =>
            subst hki
            exact List.pairwise_cons.2 ⟨hx, hl⟩
        · next hlt hne =>
            refine List.pairwise_cons.2 ⟨fun e he => ?_, ih hl⟩
            rcases mem_place he with rfl | he
            · rcases UInt32.lt_or_lt_of_ne hne with h' | h'
              · exact absurd h' hlt
              · exact h'
            · exact hx e he

/-- Sets the value of an id. -/
def insert (m : IdMap α) (k : Id) (a : α) : IdMap α :=
  ⟨place k a m.entries, pairwise_place m.ascending⟩

/-- Inserts a list of entries one by one, so the last one for an id wins. -/
def ofList (l : List (Id × α)) : IdMap α := l.foldl (fun m e => m.insert e.1 e.2) empty

@[simp] theorem get?_empty (k : Id) : (empty : IdMap α).get? k = none := rfl

theorem find?_place (k j : Id) (a : α) (l : List (Id × α)) :
    find? j (place k a l) = if j = k then some a else find? j l := by
  induction l with
  | nil =>
      by_cases h : j = k
      · simp [place, find?, h]
      · simp [place, find?, h, Ne.symm h]
  | cons x l ih =>
      obtain ⟨i, b⟩ := x
      simp only [place]
      split
      · by_cases h : j = k
        · simp [find?, h]
        · simp [find?, h, Ne.symm h]
      · split
        · next h =>
            subst h
            by_cases h' : j = k
            · simp [find?, h']
            · simp [find?, h', Ne.symm h']
        · next hne =>
            by_cases h : j = k
            · subst h
              simp [find?, ih, Ne.symm hne]
            · by_cases h' : i = j <;> simp [find?, ih, h, h']

/-- An insertion changes the value of its id and of no other. -/
theorem get?_insert (m : IdMap α) (k j : Id) (a : α) :
    (m.insert k a).get? j = if j = k then some a else m.get? j :=
  find?_place k j a m.entries

/-- Below the least id of an ascending list there is no value. -/
theorem find?_eq_none_of_lt {k : Id} {l : List (Id × α)} (h : ∀ e ∈ l, k < e.1) :
    find? k l = none := by
  induction l with
  | nil => rfl
  | cons x l ih =>
      have hx : x.1 ≠ k := fun e => UInt32.lt_irrefl k (by simpa [e] using h x (by simp))
      obtain ⟨i, b⟩ := x
      simp [find?, hx, ih fun e he => h e (List.mem_cons_of_mem _ he)]

theorem entries_eq_of_find? {l r : List (Id × α)} (hl : l.Pairwise fun a b => a.1 < b.1)
    (hr : r.Pairwise fun a b => a.1 < b.1) (h : ∀ k, find? k l = find? k r) : l = r := by
  induction l generalizing r with
  | nil =>
      cases r with
      | nil => rfl
      | cons y r => have := h y.1; simp [find?] at this
  | cons x l ih =>
      cases r with
      | nil => have := h x.1; simp [find?] at this
      | cons y r =>
          obtain ⟨i, a⟩ := x
          obtain ⟨j, b⟩ := y
          obtain ⟨hx, hl'⟩ := List.pairwise_cons.1 hl
          obtain ⟨hy, hr'⟩ := List.pairwise_cons.1 hr
          have hij : i = j := by
            rcases Decidable.em (i = j) with e | e
            · exact e
            · rcases UInt32.lt_or_lt_of_ne e with lt | lt
              · have := h i
                rw [find?, if_pos rfl, find?, if_neg (Ne.symm e),
                  find?_eq_none_of_lt fun e he => UInt32.lt_trans lt (hy e he)] at this
                simp at this
              · have := h j
                rw [find?, if_neg e, find?, if_pos rfl,
                  find?_eq_none_of_lt fun e he => UInt32.lt_trans lt (hx e he)] at this
                simp at this
          subst hij
          have hab : a = b := by simpa [find?] using h i
          subst hab
          congr 1
          refine ih hl' hr' fun k => ?_
          by_cases hk : i = k
          · subst hk
            rw [find?_eq_none_of_lt hx, find?_eq_none_of_lt hy]
          · simpa [find?, hk] using h k

/-- Maps with the same values are equal. -/
theorem ext {m n : IdMap α} (h : ∀ k, m.get? k = n.get? k) : m = n := by
  cases m with
  | mk l hl =>
      cases n with
      | mk r hr =>
          have : l = r := entries_eq_of_find? hl hr h
          subst this
          rfl

/-! ## Entries -/

theorem find?_eq_some_iff {k : Id} {a : α} {l : List (Id × α)} (h : (l.map (·.1)).Nodup) :
    find? k l = some a ↔ (k, a) ∈ l := by
  induction l with
  | nil => simp [find?]
  | cons e l ih =>
      obtain ⟨i, b⟩ := e
      obtain ⟨hi, hl⟩ := List.nodup_cons.mp h
      by_cases heq : i = k
      · subst heq
        have hnot : ∀ c, (i, c) ∉ l := fun c hc => hi (List.mem_map.mpr ⟨_, hc, rfl⟩)
        simp [find?, hnot, eq_comm]
      · simp [find?, heq, Ne.symm heq, ih hl]

/-- Ids that differ are inserted beside each other. -/
theorem get?_foldl_insert {l : List (Id × α)} (h : (l.map (·.1)).Nodup) (m : IdMap α) (k : Id) :
    (l.foldl (fun m e => m.insert e.1 e.2) m).get? k = (find? k l).or (m.get? k) := by
  induction l generalizing m with
  | nil => rfl
  | cons e l ih =>
      obtain ⟨i, b⟩ := e
      obtain ⟨hi, hl⟩ := List.nodup_cons.mp h
      rw [List.foldl_cons, ih hl, get?_insert]
      by_cases heq : i = k
      · subst heq
        have hnone : find? i l = none := by
          rw [Option.eq_none_iff_forall_ne_some]
          exact fun a ha => hi (List.mem_map.mpr ⟨_, (find?_eq_some_iff hl).mp ha, rfl⟩)
        simp [find?, hnone]
      · simp [find?, heq, Ne.symm heq]

theorem nodup_ids (m : IdMap α) : (m.entries.map (·.1)).Nodup := by
  refine List.pairwise_map.mpr (m.ascending.imp ?_)
  intro a b hlt heq
  exact UInt32.lt_irrefl _ (heq ▸ hlt)

/-- An id has the value with which it is listed. -/
theorem get?_eq_some_iff {m : IdMap α} {k : Id} {a : α} : m.get? k = some a ↔ (k, a) ∈ m.entries :=
  find?_eq_some_iff m.nodup_ids

/-- **A map is put together from its entries in any order.** -/
theorem ofList_eq_of_perm {m : IdMap α} {l : List (Id × α)} (h : l.Perm m.entries) : ofList l = m := by
  have hl : (l.map (·.1)).Nodup := (h.map (·.1)).nodup_iff.mpr m.nodup_ids
  refine ext fun k => Option.ext fun a => ?_
  rw [ofList, get?_foldl_insert hl, get?_empty, Option.or_none, get?, find?_eq_some_iff hl,
    find?_eq_some_iff m.nodup_ids, h.mem_iff]

end IdMap

end LayerLint
