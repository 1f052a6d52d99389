import LayerLint.Diagnostic

/-!
# `Proofs.Sorting` — the order of findings and what sorting keeps

`Diagnostic.compare` looks at five fields and leaves out the others, so distinct findings may compare
equal: they **tie**. Everything said about sorted output rests on two facts: the order is a total
preorder, and sorting keeps the findings of each tie class in the order in which they came.

## Contents
- **Order.** `Diagnostic.le_trans`, `Diagnostic.le_total`, and `Diagnostic.ties`.
- **Stable sorting.** `IsStableSort`, met by exactly one list (`isStableSort_iff`): the one that
  `Diagnostic.sort` gives.
- **Consequences.** Sorting commutes with filtering (`sort_filter`), two lists sort alike exactly
  when their tie classes agree (`sort_eq_sort_iff`), and without ties the order in which findings come does not
  matter (`sort_of_perm`).
-/

namespace LayerLint

open Std

/-! ## Order -/

instance : TransCmp Component.compare :=
  inferInstanceAs (TransCmp (compareLex (compareOn Component.rank) (compareOn Component.nameText)))

/-- A comparison through a key is as lawful as the comparison of the keys. -/
theorem transCmp_key {α β : Type} (f : α → β) (c : β → β → Ordering) [TransCmp c] :
    TransCmp fun x y => c (f x) (f y) where
  eq_swap := OrientedCmp.eq_swap
  isLE_trans := TransCmp.isLE_trans

/-- Of two values, one does not come after the other. -/
theorem isLE_total {α : Type} (c : α → α → Ordering) [OrientedCmp c] (a b : α) : (c a b).isLE || (c b a).isLE := by
  have hswap : c b a = (c a b).swap := OrientedCmp.eq_swap
  rw [hswap]
  cases c a b <;> rfl

instance : TransCmp Path.compare :=
  transCmp_key Path.components (List.compareLex Component.compare)

namespace Diagnostic

instance : TransCmp fun a b : Diagnostic => Path.compare a.location.file b.location.file :=
  transCmp_key (fun d : Diagnostic => d.location.file) Path.compare

-- `compare` is a chain of `Ordering.then`, which is what `compareLex` unfolds to.
instance : TransCmp Diagnostic.compare :=
  inferInstanceAs (TransCmp
    (compareLex (fun a b : Diagnostic => Path.compare a.location.file b.location.file)
      (compareLex (compareOn (·.location.line))
        (compareLex (compareOn (·.location.column))
          (compareLex (compareOn (·.code)) (compareOn (·.message)))))))

theorem le_trans (a b c : Diagnostic) (hab : le a b) (hbc : le b c) : le a c :=
  TransCmp.isLE_trans hab hbc

theorem le_total (a b : Diagnostic) : le a b || le b a := isLE_total Diagnostic.compare a b

theorem le_refl (a : Diagnostic) : le a a := by
  have h := le_total a a
  rwa [Bool.or_self] at h

/-- The findings compare equal: sorting does not tell them apart. -/
def ties (a b : Diagnostic) : Bool := le a b && le b a

theorem ties_iff {a b : Diagnostic} : ties a b ↔ le a b ∧ le b a := by
  unfold ties
  rw [Bool.and_eq_true]

@[simp] theorem ties_self (a : Diagnostic) : ties a a := ties_iff.mpr ⟨le_refl a, le_refl a⟩

theorem ties_symm {a b : Diagnostic} (h : ties a b) : ties b a :=
  ties_iff.mpr ⟨(ties_iff.mp h).2, (ties_iff.mp h).1⟩

theorem ties_trans {a b c : Diagnostic} (hab : ties a b) (hbc : ties b c) : ties a c := by
  obtain ⟨h1, h2⟩ := ties_iff.mp hab
  obtain ⟨h3, h4⟩ := ties_iff.mp hbc
  exact ties_iff.mpr ⟨le_trans a b c h1 h3, le_trans c b a h4 h2⟩

/-! ## Stable sorting -/

/-- **Stable sorting.** The same findings, in order, and those that tie as they stood before. -/
structure IsStableSort (ds sorted : List Diagnostic) : Prop where
  perm : sorted.Perm ds
  ordered : sorted.Pairwise fun a b => le a b
  stable : ∀ d, sorted.filter (ties d) = ds.filter (ties d)

/-- The findings that tie with one finding are in order however they stand. -/
theorem pairwise_filter_ties (d : Diagnostic) (ds : List Diagnostic) :
    (ds.filter (ties d)).Pairwise fun a b => le a b := by
  apply List.pairwise_of_forall_mem_list
  intro a ha b hb
  have hda : ties d a := (List.mem_filter.mp ha).2
  have hdb : ties d b := (List.mem_filter.mp hb).2
  exact (ties_iff.mp (ties_trans (ties_symm hda) hdb)).1

/-- A tie class is a sorted part of the list, so it comes out of sorting as it went in. -/
theorem filter_ties_sort (d : Diagnostic) (ds : List Diagnostic) :
    (sort ds).filter (ties d) = ds.filter (ties d) := by
  have hperm : (sort ds).Perm ds := List.mergeSort_perm ds le
  have hsub : (ds.filter (ties d)).Sublist (sort ds) :=
    List.sublist_mergeSort le_trans le_total (pairwise_filter_ties d ds)
      List.filter_sublist
  have hclass := hsub.filter (ties d)
  simp only [List.filter_filter, Bool.and_self] at hclass
  exact (hclass.eq_of_length (hperm.filter _).length_eq.symm).symm

theorem isStableSort_sort (ds : List Diagnostic) : IsStableSort ds (sort ds) where
  perm := List.mergeSort_perm ds le
  ordered := List.pairwise_mergeSort le_trans le_total ds
  stable d := filter_ties_sort d ds

/-- Two lists in order with the same tie classes are the same list. -/
theorem eq_of_ordered_of_filter_ties {ds es : List Diagnostic}
    (hds : ds.Pairwise fun a b => le a b) (hes : es.Pairwise fun a b => le a b)
    (h : ∀ d, ds.filter (ties d) = es.filter (ties d)) : ds = es := by
  induction ds generalizing es with
  | nil =>
      cases es with
      | nil => rfl
      | cons e es => have he := h e; simp at he
  | cons d ds ih =>
      cases es with
      | nil => have hd := h d; simp at hd
      | cons e es =>
          -- each head stands in the other list, so neither comes before the other
          have hde : ties d e := by
            have hd : d ∈ (e :: es).filter (ties d) := by rw [← h d]; simp
            have he : e ∈ (d :: ds).filter (ties e) := by rw [h e]; simp
            have hed : le e d := by
              rcases List.mem_cons.mp (List.mem_filter.mp hd |>.1) with rfl | hm
              · exact le_refl d
              · exact (List.pairwise_cons.mp hes).1 d hm
            have hle : le d e := by
              rcases List.mem_cons.mp (List.mem_filter.mp he |>.1) with rfl | hm
              · exact le_refl e
              · exact (List.pairwise_cons.mp hds).1 e hm
            exact ties_iff.mpr ⟨hle, hed⟩
          have hhead := h d
          rw [List.filter_cons_of_pos (ties_self d), List.filter_cons_of_pos hde] at hhead
          obtain ⟨rfl, -⟩ := List.cons.inj hhead
          rw [ih (List.pairwise_cons.mp hds).2 (List.pairwise_cons.mp hes).2]
          intro x
          have hx := h x
          by_cases hxd : ties x d
          · rw [List.filter_cons_of_pos hxd, List.filter_cons_of_pos hxd] at hx
            exact (List.cons.inj hx).2
          · rwa [List.filter_cons_of_neg hxd, List.filter_cons_of_neg hxd] at hx

/-- **Stable sorting has one result**, the one `sort` gives. -/
theorem isStableSort_iff {ds sorted : List Diagnostic} :
    IsStableSort ds sorted ↔ sorted = sort ds := by
  constructor
  · intro h
    have hs := isStableSort_sort ds
    apply eq_of_ordered_of_filter_ties h.ordered hs.ordered
    intro d
    rw [h.stable d, hs.stable d]
  · rintro rfl
    exact isStableSort_sort ds

/-! ## Consequences -/

/-- Sorting what is left is leaving out of what is sorted. -/
theorem sort_filter (p : Diagnostic → Bool) (ds : List Diagnostic) :
    sort (ds.filter p) = (sort ds).filter p := by
  have hs := isStableSort_sort ds
  refine (isStableSort_iff.mp ⟨hs.perm.filter p, hs.ordered.filter p, ?_⟩).symm
  intro d
  rw [List.filter_filter, List.filter_filter, List.filter_congr (fun x _ => Bool.and_comm _ _),
    ← List.filter_filter, hs.stable d, List.filter_filter,
    List.filter_congr (fun x _ => Bool.and_comm _ _)]

/-- Two lists sort alike exactly when they hold the same findings of each tie class in the same
order. -/
theorem sort_eq_sort_iff {ds es : List Diagnostic} :
    sort ds = sort es ↔ ∀ d, ds.filter (ties d) = es.filter (ties d) := by
  constructor
  · intro h d
    rw [← filter_ties_sort d ds, h, filter_ties_sort d es]
  · intro h
    apply eq_of_ordered_of_filter_ties (isStableSort_sort ds).ordered (isStableSort_sort es).ordered
    intro d
    rw [filter_ties_sort d ds, h d, filter_ties_sort d es]

/-- A list that is in order sorts to itself. -/
theorem sort_of_ordered {ds : List Diagnostic} (h : ds.Pairwise fun a b => le a b) : sort ds = ds :=
  List.mergeSort_of_pairwise h

/-- Findings of which no two tie have one order, whatever order they come in. -/
theorem sort_of_perm {ds es : List Diagnostic} (hperm : ds.Perm es)
    (hstrict : es.Pairwise fun a b => le b a = false) : sort ds = es := by
  have hsorted := isStableSort_sort ds
  have hordered : es.Pairwise fun a b => le a b := by
    refine hstrict.imp fun {a b} h => ?_
    have htotal := le_total a b
    rwa [h, Bool.or_false] at htotal
  have hantisymm : ∀ a ∈ es, ∀ b ∈ es, le a b → le b a → a = b := by
    refine List.Pairwise.forall_of_forall_of_flip (fun _ _ _ _ => rfl) ?_ ?_
    · exact hstrict.imp fun h _ hba => absurd hba (ne_true_of_eq_false h)
    · exact hstrict.imp fun h hab _ => absurd hab (ne_true_of_eq_false h)
  have hfound := hsorted.perm.trans hperm
  exact hfound.eq_of_pairwise (fun a b ha hb => hantisymm a (hfound.subset ha) b hb) hsorted.ordered hordered

end Diagnostic

end LayerLint
