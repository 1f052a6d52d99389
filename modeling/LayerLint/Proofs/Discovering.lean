import LayerLint.Discovery
import LayerLint.Proofs.Paths
import LayerLint.Proofs.Sorting
import Mathlib.Data.List.Nodup

/-!
# `Proofs.Discovering` — which files are found once

What is found under several paths is put in order and freed of repetitions by the components of the paths. A place
can be spelled with different components: a leading `.` counts, and so does a `..` inside. A file that is reached from
two paths is found once if the one path goes on from the other by names only, and twice otherwise.

## Contents
- **Trees.** `Entry.WellFormed`, a tree as a disk can hold it.
- **Places.** `Disk.placeOf`, the place that the components of a path lead to; `Disk.placeOf_of_resolve`.
- **Walks.** `Disk.mem_filesFor`: a file is found as the given path with the names down to it.
- **Repetitions.** Of paths with the same components, one is left (`Path.dedup_sort`).
- **Spellings.** `Path.SpelledAlike`.
- **Result.** `files_found_once_iff`; `one_file_found_twice`.
-/

namespace LayerLint

/-! ## Trees -/

/-- **A tree as a disk can hold it**: what a directory lists has names, and no two the same. -/
inductive Entry.WellFormed : Entry → Prop
  | file (content : String) : WellFormed (.file content)
  | directory {es : List (String × Entry)} (nodup : (es.map Prod.fst).Nodup)
      (names : ∀ x ∈ es, Path.IsName x.1) (inside : ∀ x ∈ es, WellFormed x.2) : WellFormed (.directory es)

namespace Entry

theorem find?_append (e : Entry) (p q : Place) : e.find? (p ++ q) = (e.find? p).bind (·.find? q) := by
  induction p generalizing e with
  | nil => rfl
  | cons name p ih =>
      show (e.child? name).bind (·.find? (p ++ q)) = ((e.child? name).bind (·.find? p)).bind (·.find? q)
      rw [Option.bind_assoc]
      congr 1
      funext child
      exact ih child

/-- Where no two names are the same, each entry is found under its name. -/
theorem find?_of_mem {es : List (String × Entry)} (hnodup : (es.map Prod.fst).Nodup) {x : String × Entry}
    (hx : x ∈ es) (place : Place) : (directory es).find? (x.1 :: place) = x.2.find? place := by
  obtain ⟨before, after, rfl⟩ := List.append_of_mem hx
  have hfirst : (before ++ x :: after).lookup x.1 = some x.2 := by
    refine List.lookup_eq_some_iff.mpr ⟨before, after, rfl, fun y hy => bne_iff_ne.mpr fun heq => ?_⟩
    rw [List.map_append, List.map_cons] at hnodup
    exact (List.nodup_cons.mp (List.nodup_middle.mp hnodup)).1
      (List.mem_append_left _ (heq ▸ List.mem_map_of_mem hy))
  show ((before ++ x :: after).lookup x.1).bind (·.find? place) = x.2.find? place
  rw [hfirst, Option.bind_some]

theorem WellFormed.find? {e f : Entry} (h : e.WellFormed) {place : Place} (hf : e.find? place = some f) :
    f.WellFormed := by
  induction place generalizing e with
  | nil =>
      obtain rfl : e = f := Option.some.inj hf
      exact h
  | cons name place ih =>
      obtain ⟨child, hchild, hbelow⟩ := Option.bind_eq_some_iff.mp hf
      cases h with
      | file content => cases hchild
      | directory nodup names inside =>
          obtain ⟨before, after, rfl, -⟩ := List.lookup_eq_some_iff.mp hchild
          exact ih (inside (name, child) (by simp)) hbelow

end Entry

/-! ## Places -/

/-- Goes on from a place by one component. -/
def Place.go (place : Place) : Component → Place
  | .root => []
  | .current => place
  | .parent => place.dropLast
  | .name s => place ++ [s]

theorem Place.foldl_go_names (place : Place) (names : List String) :
    (names.map Component.name).foldl Place.go place = place ++ names := by
  induction names generalizing place with
  | nil => exact (List.append_nil place).symm
  | cons name names ih =>
      rw [List.map_cons, List.foldl_cons, ih, Place.go, List.append_assoc]
      rfl

namespace Disk

variable {d : Disk}

/-- **The place a path spells**: where its components lead from the current place. -/
def placeOf (d : Disk) (path : String) : Place := (Path.components path).foldl Place.go d.current

/-- Names behind a path are names below its place. -/
theorem placeOf_of_components {path longer : String} {names : List String}
    (h : Path.components longer = Path.components path ++ names.map .name) :
    d.placeOf longer = d.placeOf path ++ names := by
  rw [placeOf, h, List.foldl_append, Place.foldl_go_names]
  rfl

theorem enter_eq_ok {place next : Place} {piece : String} (h : d.enter place piece = .ok next) :
    next = ((Path.component? piece).toList).foldl Place.go place := by
  unfold enter at h
  unfold Path.component?
  split at h
  · cases h
  · cases h
  · split_ifs at h with hvoid hparent hlong hlisted
    · rw [if_pos hvoid]
      exact (Except.ok.inj h).symm
    · rw [if_neg hvoid, if_pos hparent]
      exact (Except.ok.inj h).symm
    · rw [if_neg hvoid, if_neg hparent]
      exact (Except.ok.inj h).symm

theorem foldlM_enter_eq_ok {pieces : List String} {place last : Place}
    (h : pieces.foldlM d.enter place = .ok last) :
    last = (pieces.filterMap Path.component?).foldl Place.go place := by
  induction pieces generalizing place with
  | nil => exact (Except.ok.inj h).symm
  | cons piece pieces ih =>
      rw [List.foldlM_cons] at h
      cases hnext : d.enter place piece with
      | error e => rw [hnext] at h; cases h
      | ok next =>
          rw [hnext] at h
          rw [ih h, enter_eq_ok hnext, List.filterMap_cons]
          cases Path.component? piece <;> rfl

/-- **A path that can be followed leads to the place it spells.** -/
theorem placeOf_of_resolve {path : String} {place : Place} (h : d.resolve path = .ok place) :
    path ≠ "" ∧ place = d.placeOf path := by
  unfold resolve at h
  by_cases hempty : path = ""
  · rw [if_pos hempty] at h
    cases h
  by_cases hlong : longestPath < path.utf8ByteSize
  · rw [if_neg hempty, if_pos hlong] at h
    cases h
  rw [if_neg hempty, if_neg hlong] at h
  obtain ⟨first, rest, hpieces⟩ := List.exists_cons_of_ne_nil (Path.pieces_ne_nil path)
  have hcomponents := Path.components_of_pieces hpieces (Path.first_ne_or_rest_ne hempty hpieces)
  refine ⟨hempty, ?_⟩
  rw [foldlM_enter_eq_ok h, placeOf, hcomponents, List.foldl_append]
  congr 1
  by_cases hfirst : first = ""
  · rw [if_pos ((Path.isAbsolute_iff hempty hpieces).mpr hfirst), Path.lead, if_pos hfirst]
    rfl
  · rw [if_neg fun habs => hfirst ((Path.isAbsolute_iff hempty hpieces).mp habs), Path.lead, if_neg hfirst]
    split <;> rfl

end Disk

/-! ## Walks -/

namespace Discovery

/-- The path to something below what a path leads to. -/
def below (path : String) (names : List String) : String := names.foldl Path.join path

theorem join_ne_empty {path name : String} (h : path ≠ "") : Path.join path name ≠ "" := by
  intro heq
  unfold Path.join at heq
  rw [if_neg h] at heq
  split at heq
  · exact h (String.append_eq_empty_iff.mp heq).1
  · exact h (String.append_eq_empty_iff.mp (String.append_eq_empty_iff.mp heq).1).1

theorem components_below {path : String} {names : List String} (hpath : path ≠ "")
    (hnames : ∀ name ∈ names, Path.IsName name) :
    Path.components (below path names) = Path.components path ++ names.map .name := by
  induction names generalizing path with
  | nil => exact (List.append_nil _).symm
  | cons name names ih =>
      obtain ⟨hname, hnames⟩ := List.forall_mem_cons.mp hnames
      show Path.components (below (Path.join path name) names) = _
      rw [ih (join_ne_empty hpath) hnames, Path.components_join hpath hname, List.append_assoc]
      rfl

mutual

/-- **What is found at an entry** are files at it or below, each as the path with the names down to it. -/
theorem mem_filesAt {d : Disk} {f : String} : ∀ {rules : IgnoreRules} {path name : String} {e : Entry},
    e.WellFormed → f ∈ filesAt d rules path name e →
      ∃ names content, e.find? names = some (.file content) ∧ (∀ n ∈ names, Path.IsName n) ∧ f = below path names
  | rules, path, name, .file content, _, hf => by
      rw [filesAt] at hf
      split at hf
      · exact ⟨[], content, rfl, nofun, List.mem_singleton.mp hf⟩
      · cases hf
  | rules, path, name, .directory es, hwell, hf => by
      rw [filesAt] at hf
      cases hwell with
      | directory nodup names inside =>
          obtain ⟨x, hx, more, content, hfile, hmore, heq⟩ := mem_filesIn names inside hf
          exact ⟨x.1 :: more, content, (Entry.find?_of_mem nodup hx more).trans hfile,
            List.forall_mem_cons.mpr ⟨names x hx, hmore⟩, heq⟩

theorem mem_filesIn {d : Disk} {f : String} : ∀ {rules : IgnoreRules} {path : String} {es : List (String × Entry)},
    (∀ x ∈ es, Path.IsName x.1) → (∀ x ∈ es, x.2.WellFormed) → f ∈ filesIn d rules path es →
      ∃ x ∈ es, ∃ names content, x.2.find? names = some (.file content) ∧ (∀ n ∈ names, Path.IsName n) ∧
        f = below path (x.1 :: names)
  | rules, path, [], _, _, hf => by rw [filesIn] at hf; cases hf
  | rules, path, (name, e) :: rest, hnames, hinside, hf => by
      rw [filesIn, List.mem_append] at hf
      obtain ⟨-, hnames⟩ := List.forall_mem_cons.mp hnames
      obtain ⟨hwell, hinside⟩ := List.forall_mem_cons.mp hinside
      rcases hf with hf | hf
      · split at hf
        · cases hf
        · obtain ⟨names, content, hfile, hall, heq⟩ := mem_filesAt hwell hf
          exact ⟨(name, e), List.mem_cons_self, names, content, hfile, hall, heq⟩
      · obtain ⟨x, hx, hfound⟩ := mem_filesIn hnames hinside hf
        exact ⟨x, List.mem_cons_of_mem _ hx, hfound⟩

end

end Discovery

namespace Disk

variable {d : Disk} {personal : List IgnorePattern} {path f : String} {found : List String}

/-- Something is found under a path that leads to a file, which is found itself, or to a directory. -/
theorem mem_filesFor_cases (hfound : d.filesFor personal path = .ok found) (hf : f ∈ found) :
    ∃ place, d.resolve path = .ok place ∧
      ((∃ content, d.root.find? place = some (.file content) ∧ f = path) ∨
        ∃ rules es, d.root.find? place = some (.directory es) ∧ f ∈ Discovery.filesIn d rules path es) := by
  unfold filesFor at hfound
  split at hfound
  · split at hfound
    · obtain rfl := Except.ok.inj hfound
      cases hf
    · cases hfound
  · next place hresolve =>
      refine ⟨place, hresolve, ?_⟩
      split at hfound
      · cases hfound
      · next content hentry =>
          obtain rfl := Except.ok.inj hfound
          exact .inl ⟨content, hentry, List.mem_singleton.mp hf⟩
      · next es hentry =>
          split at hfound
          · obtain rfl := Except.ok.inj hfound
            cases hf
          · dsimp only at hfound
            split at hfound
            · cases hfound
            · obtain rfl := Except.ok.inj hfound
              exact .inr ⟨_, es, hentry, hf⟩

/-- **What a path finds** are files at its place or below, and the components of what is found are those of the path
and the names down to the file. -/
theorem mem_filesFor (hwell : d.root.WellFormed) (hfound : d.filesFor personal path = .ok found) (hf : f ∈ found) :
    ∃ names content, d.root.find? (d.placeOf path ++ names) = some (.file content) ∧
      Path.components f = Path.components path ++ names.map .name := by
  obtain ⟨place, hresolve, hfile | hdirectory⟩ := mem_filesFor_cases hfound hf
  · obtain ⟨-, rfl⟩ := placeOf_of_resolve hresolve
    obtain ⟨content, hentry, rfl⟩ := hfile
    exact ⟨[], content, by rw [List.append_nil, hentry], (List.append_nil _).symm⟩
  · obtain ⟨hpath, rfl⟩ := placeOf_of_resolve hresolve
    obtain ⟨rules, es, hentry, hf⟩ := hdirectory
    cases hwell.find? hentry with
    | directory nodup names inside =>
        obtain ⟨x, hx, more, content, hfile, hmore, rfl⟩ := Discovery.mem_filesIn names inside hf
        have hall : ∀ n ∈ x.1 :: more, Path.IsName n := List.forall_mem_cons.mpr ⟨names x hx, hmore⟩
        refine ⟨x.1 :: more, content, ?_, Discovery.components_below hpath hall⟩
        rw [Entry.find?_append, hentry, Option.bind_some, Entry.find?_of_mem nodup hx, hfile]

end Disk

/-! ## Repetitions -/

theorem Component.eq_of_rank_of_nameText {a b : Component} (hrank : a.rank = b.rank)
    (hname : a.nameText = b.nameText) : a = b := by
  cases a <;> cases b <;> simp_all [rank, nameText]

instance : Std.LawfulEqCmp Component.compare where
  eq_of_compare h := by
    obtain ⟨hrank, hname⟩ := Ordering.then_eq_eq.mp h
    exact Component.eq_of_rank_of_nameText (Std.LawfulEqCmp.eq_of_compare hrank)
      (Std.LawfulEqCmp.eq_of_compare hname)

namespace Path

/-- **Paths compare equal exactly if they have the same components.** -/
theorem compare_eq_eq_iff {p q : String} : Path.compare p q = .eq ↔ components p = components q :=
  @Std.LawfulEqCmp.compare_eq_iff_eq _ (List.compareLex Component.compare) _ _ _

/-- In order, a path is dropped if it has the components of the one before it; those that are left increase. -/
theorem pairwise_dedup_go {last : String} {ps : List String}
    (h : (last :: ps).Pairwise fun p q => (Path.compare p q).isLE) :
    (last :: dedup.go last ps).Pairwise fun p q => Path.compare p q = .lt := by
  induction ps generalizing last with
  | nil => exact List.pairwise_singleton _ _
  | cons p ps ih =>
      obtain ⟨hlast, hps⟩ := List.pairwise_cons.mp h
      rw [dedup.go]
      by_cases hp : components p = components last
      · rw [if_pos hp]
        exact ih (h.sublist ((List.sublist_cons_self p ps).cons_cons last))
      · rw [if_neg hp]
        have hrest := ih hps
        have hlt : Path.compare last p = .lt :=
          (Ordering.isLE_iff_eq_lt_or_eq_eq.mp (hlast p List.mem_cons_self)).resolve_right
            fun heq => hp (compare_eq_eq_iff.mp heq).symm
        refine List.pairwise_cons.mpr ⟨List.forall_mem_cons.mpr ⟨hlt, fun q hq => ?_⟩, hrest⟩
        exact Std.TransCmp.lt_trans hlt ((List.pairwise_cons.mp hrest).1 q hq)

/-- Each path has the components of one that is left. -/
theorem exists_mem_dedup_go {last p : String} {ps : List String} (hp : p ∈ ps) :
    ∃ q ∈ last :: dedup.go last ps, components q = components p := by
  induction ps generalizing last with
  | nil => cases hp
  | cons r ps ih =>
      rw [dedup.go]
      by_cases hr : components r = components last
      · rw [if_pos hr]
        rcases List.mem_cons.mp hp with rfl | hp
        · exact ⟨last, List.mem_cons_self, hr.symm⟩
        · exact ih hp
      · rw [if_neg hr]
        rcases List.mem_cons.mp hp with rfl | hp
        · exact ⟨p, List.mem_cons_of_mem _ List.mem_cons_self, rfl⟩
        · obtain ⟨q, hq, heq⟩ := @ih r hp
          exact ⟨q, List.mem_cons_of_mem _ hq, heq⟩

theorem sublist_dedup_go {last : String} {ps : List String} : (dedup.go last ps).Sublist ps := by
  induction ps generalizing last with
  | nil => exact .slnil
  | cons p ps ih =>
      rw [dedup.go]
      split
      · exact ih.cons p
      · exact ih.cons_cons p

/-- **What is left of some paths** are some of them, one with the components of each, and no two with the same. -/
theorem dedup_sort (ps : List String) :
    (∀ p ∈ dedup (sort ps), p ∈ ps) ∧ (∀ p ∈ ps, ∃ q ∈ dedup (sort ps), components q = components p) ∧
      ((dedup (sort ps)).map components).Nodup := by
  have hperm : (sort ps).Perm ps := List.mergeSort_perm ps _
  have hsorted : (sort ps).Pairwise fun p q => (Path.compare p q).isLE :=
    List.pairwise_mergeSort (fun _ _ _ => Std.TransCmp.isLE_trans) (isLE_total Path.compare) ps
  have hmem : ∀ p, p ∈ ps ↔ p ∈ sort ps := fun p => hperm.mem_iff.symm
  simp only [hmem]
  generalize sort ps = sorted at hsorted
  cases sorted with
  | nil => exact ⟨nofun, nofun, .nil⟩
  | cons p rest =>
      refine ⟨fun q hq => (sublist_dedup_go.cons_cons p).subset hq, fun q hq => ?_, ?_⟩
      · rcases List.mem_cons.mp hq with rfl | hq
        · exact ⟨q, List.mem_cons_self, rfl⟩
        · exact exists_mem_dedup_go hq
      · rw [List.Nodup, List.pairwise_map]
        refine (pairwise_dedup_go hsorted).imp fun {q r} hlt heq => ?_
        rw [compare_eq_eq_iff.mpr heq] at hlt
        cases hlt

end Path

/-! ## Spellings -/

/-- **Two paths are spelled alike** if one of them goes on from the other by names only. -/
def Path.SpelledAlike (p q : String) : Prop :=
  ∃ names : List String, components q = components p ++ names.map .name ∨ components p = components q ++ names.map .name

theorem Path.SpelledAlike.symm {p q : String} (h : SpelledAlike p q) : SpelledAlike q p :=
  h.imp fun _ => Or.symm

/-- Something below one path has the components of the same thing below a path that goes on from it. -/
theorem Disk.components_eq_of_longer {d : Disk} {p q f g : String} {names v w : List String}
    (hq : Path.components q = Path.components p ++ names.map .name)
    (hf : Path.components f = Path.components p ++ v.map .name)
    (hg : Path.components g = Path.components q ++ w.map .name) (hplace : d.placeOf f = d.placeOf g) :
    Path.components f = Path.components g := by
  rw [placeOf_of_components hf, placeOf_of_components hg, placeOf_of_components hq, List.append_assoc,
    List.append_cancel_left_eq] at hplace
  rw [hf, hg, hq, hplace, List.map_append, List.append_assoc]

/-- **A file below two paths** is found with the same components from both exactly if they are spelled alike. -/
theorem Disk.components_eq_iff {d : Disk} {p q f g : String} {v w : List String}
    (hf : Path.components f = Path.components p ++ v.map .name)
    (hg : Path.components g = Path.components q ++ w.map .name) (hplace : d.placeOf f = d.placeOf g) :
    Path.components f = Path.components g ↔ Path.SpelledAlike p q := by
  constructor
  · intro heq
    rw [hf, hg] at heq
    rcases List.append_eq_append_iff.mp heq with ⟨more, hq, hv⟩ | ⟨more, hp, hw⟩
    · obtain ⟨names, -, -, rfl, -⟩ := List.map_eq_append_iff.mp hv
      exact ⟨names, .inl hq⟩
    · obtain ⟨names, -, -, rfl, -⟩ := List.map_eq_append_iff.mp hw
      exact ⟨names, .inr hp⟩
  · rintro ⟨names, hq | hp⟩
    · exact components_eq_of_longer hq hf hg hplace
    · exact (components_eq_of_longer hp hg hf hplace.symm).symm

namespace Disk

variable {d : Disk} {home : Option String} {paths files : List String}

/-- The patterns of a user. -/
def personal (d : Disk) (home : Option String) : List IgnorePattern :=
  IgnorePattern.ofText ((home.bind (VersionControl.userList? d)).getD "")

theorem discover_eq (d : Disk) (home : Option String) (paths : List String) : d.discover home paths = do
    return Path.dedup (Path.sort (← paths.mapM (d.filesFor (d.personal home))).flatten) := rfl

/-- **A path finds something**: it is among the snapshot files the path stands for. -/
def Finds (d : Disk) (home : Option String) (path f : String) : Prop :=
  ∃ found, d.filesFor (d.personal home) path = .ok found ∧ f ∈ found

/-- What several searches that all succeed give is what each of them gives. -/
theorem mem_flatten_of_mapM {α : Type} {g : α → Except WalkError (List String)} {xs : List α}
    {found : List (List String)} (h : xs.mapM g = .ok found) (f : String) :
    f ∈ found.flatten ↔ ∃ x ∈ xs, ∃ l, g x = .ok l ∧ f ∈ l := by
  induction xs generalizing found with
  | nil =>
      obtain rfl : [] = found := Except.ok.inj h
      simp
  | cons x xs ih =>
      rw [List.mapM_cons] at h
      cases hx : g x with
      | error e => rw [hx] at h; cases h
      | ok l =>
          cases hxs : xs.mapM g with
          | error e => rw [hx, hxs] at h; cases h
          | ok rest =>
              rw [hx, hxs] at h
              obtain rfl : l :: rest = found := Except.ok.inj h
              simp [ih hxs, hx]

/-- What is discovered is what is left of all that the paths find. -/
theorem exists_of_discover (h : d.discover home paths = .ok files) :
    ∃ all, files = Path.dedup (Path.sort all) ∧ ∀ f, f ∈ all ↔ ∃ path ∈ paths, d.Finds home path f := by
  rw [discover_eq] at h
  cases hfound : paths.mapM (d.filesFor (d.personal home)) with
  | error e => rw [hfound] at h; cases h
  | ok found =>
      rw [hfound] at h
      exact ⟨found.flatten, (Except.ok.inj h).symm, mem_flatten_of_mapM hfound⟩

theorem placeOf_congr {f g : String} (h : Path.components f = Path.components g) : d.placeOf f = d.placeOf g := by
  rw [placeOf, h]
  rfl

theorem Finds.spec (hwell : d.root.WellFormed) {path f : String} (h : d.Finds home path f) :
    ∃ (names : List String) (content : String), d.root.find? (d.placeOf f) = some (.file content) ∧
      Path.components f = Path.components path ++ names.map .name := by
  obtain ⟨found, hfound, hf⟩ := h
  obtain ⟨names, content, hfile, hcomponents⟩ := mem_filesFor hwell hfound hf
  exact ⟨names, content, placeOf_of_components hcomponents ▸ hfile, hcomponents⟩

/-- **A place is discovered** if a path finds something there. -/
theorem mem_places_iff (h : d.discover home paths = .ok files) (place : Place) :
    place ∈ files.map d.placeOf ↔ ∃ path ∈ paths, ∃ f, d.Finds home path f ∧ d.placeOf f = place := by
  obtain ⟨all, rfl, hall⟩ := exists_of_discover h
  obtain ⟨hsome, hleft, -⟩ := Path.dedup_sort all
  constructor
  · intro hplace
    obtain ⟨f, hf, rfl⟩ := List.mem_map.mp hplace
    obtain ⟨path, hpath, hfinds⟩ := (hall f).mp (hsome f hf)
    exact ⟨path, hpath, f, hfinds, rfl⟩
  · rintro ⟨path, hpath, f, hfinds, rfl⟩
    obtain ⟨g, hg, hsame⟩ := hleft f ((hall f).mpr ⟨path, hpath, hfinds⟩)
    exact List.mem_map.mpr ⟨g, hg, placeOf_congr hsame⟩

/-- **Each place is discovered once** exactly if any two paths that find something there are spelled alike. -/
theorem nodup_places_iff (hwell : d.root.WellFormed) (h : d.discover home paths = .ok files) :
    (files.map d.placeOf).Nodup ↔ ∀ p ∈ paths, ∀ q ∈ paths, ∀ f g, d.Finds home p f → d.Finds home q g →
      d.placeOf f = d.placeOf g → Path.SpelledAlike p q := by
  obtain ⟨all, rfl, hall⟩ := exists_of_discover h
  obtain ⟨hsome, hleft, hnodup⟩ := Path.dedup_sort all
  -- two findings at one place have the same components exactly if their paths are spelled alike
  have halike : ∀ {p q f g}, d.Finds home p f → d.Finds home q g → d.placeOf f = d.placeOf g →
      (Path.components f = Path.components g ↔ Path.SpelledAlike p q) := by
    intro p q f g hf hg hplace
    obtain ⟨v, -, -, hv⟩ := hf.spec hwell
    obtain ⟨w, -, -, hw⟩ := hg.spec hwell
    exact components_eq_iff hv hw hplace
  rw [List.nodup_map_iff_inj_on hnodup.of_map]
  constructor
  · intro hinj p hp q hq f g hf hg hplace
    obtain ⟨f', hf', hsame⟩ := hleft f ((hall f).mpr ⟨p, hp, hf⟩)
    obtain ⟨g', hg', hsame'⟩ := hleft g ((hall g).mpr ⟨q, hq, hg⟩)
    have hone : f' = g' :=
      hinj f' hf' g' hg' ((placeOf_congr hsame).trans (hplace.trans (placeOf_congr hsame').symm))
    exact (halike hf hg hplace).mp (hsame.symm.trans (hone ▸ hsame'))
  · intro hspelled f hf g hg hplace
    obtain ⟨p, hp, hfinds⟩ := (hall f).mp (hsome f hf)
    obtain ⟨q, hq, hfinds'⟩ := (hall g).mp (hsome g hg)
    have hsame := (halike hfinds hfinds' hplace).mpr (hspelled p hp q hq f g hfinds hfinds' hplace)
    exact List.inj_on_of_nodup_map hnodup hf hg hsame

/-- Paths that go on from one start by names only are spelled alike where they find something at one place. -/
theorem Finds.spelledAlike (hwell : d.root.WellFormed) {start : List Component} {p q f g : String}
    {names more : List String} (hp : Path.components p = start ++ names.map .name)
    (hq : Path.components q = start ++ more.map .name) (hf : d.Finds home p f) (hg : d.Finds home q g)
    (hplace : d.placeOf f = d.placeOf g) : Path.SpelledAlike p q := by
  obtain ⟨v, -, -, hv⟩ := hf.spec hwell
  obtain ⟨w, -, -, hw⟩ := hg.spec hwell
  have hplaces : ∀ ns : List String, (start ++ ns.map Component.name).foldl Place.go d.current =
      start.foldl Place.go d.current ++ ns := by
    intro ns
    rw [List.foldl_append, Place.foldl_go_names]
  have hsame : names ++ v = more ++ w := by
    rw [placeOf, placeOf, hv, hw, hp, hq, List.append_assoc, List.append_assoc, ← List.map_append, ← List.map_append,
      hplaces, hplaces] at hplace
    exact List.append_cancel_left hplace
  rcases List.append_eq_append_iff.mp hsame with ⟨way, rfl, -⟩ | ⟨way, rfl, -⟩
  · exact ⟨way, .inl (by rw [hp, hq, List.map_append, List.append_assoc])⟩
  · exact ⟨way, .inr (by rw [hp, hq, List.map_append, List.append_assoc])⟩

end Disk

/-! ## Result -/

/-- **Which files are found once.** On a disk without links, a command discovers the files at the places where one
of its paths finds something, and no others. It discovers each of them once exactly if any two of its paths that find
something at one place are spelled alike. So it does if all paths go on from one start by names only. -/
theorem files_found_once_iff {d : Disk} (hwell : d.root.WellFormed) {home : Option String} {paths files : List String}
    (h : d.discover home paths = .ok files) :
    (∀ f ∈ files, ∃ content, d.root.find? (d.placeOf f) = some (.file content)) ∧
    (∀ place, place ∈ files.map d.placeOf ↔ ∃ path ∈ paths, ∃ f, d.Finds home path f ∧ d.placeOf f = place) ∧
    ((files.map d.placeOf).Nodup ↔ ∀ p ∈ paths, ∀ q ∈ paths, ∀ f g, d.Finds home p f → d.Finds home q g →
      d.placeOf f = d.placeOf g → Path.SpelledAlike p q) ∧
    ((∃ start, ∀ p ∈ paths, ∃ names : List String, Path.components p = start ++ names.map .name) →
      (files.map d.placeOf).Nodup) := by
  have hiff := Disk.nodup_places_iff hwell h
  refine ⟨fun f hf => ?_, Disk.mem_places_iff h, hiff, ?_⟩
  · obtain ⟨path, -, g, hfinds, hplace⟩ := (Disk.mem_places_iff h _).mp (List.mem_map_of_mem hf)
    obtain ⟨-, content, hfile, -⟩ := hfinds.spec hwell
    exact ⟨content, hplace ▸ hfile⟩
  · rintro ⟨start, hstart⟩
    refine hiff.mpr fun p hp q hq f g hf hg hplace => ?_
    obtain ⟨names, hp⟩ := hstart p hp
    obtain ⟨more, hq⟩ := hstart q hq
    exact hf.spelledAlike hwell hp hq hg hplace

namespace Sample

/-- A directory with one snapshot further down and one in it. -/
def shelf : Disk where
  root := .directory [("more", .directory [("other.json", .file "\x7b\x7d")]), ("unit.json", .file "\x7b\x7d")]

theorem wellFormed_shelf : shelf.root.WellFormed := by
  have hname : ∀ name ∈ ["more", "unit.json", "other.json"], Path.IsName name := by
    intro name hname
    constructor <;> revert name <;> decide
  have hmore : (Entry.directory [("other.json", .file "\x7b\x7d")]).WellFormed := by
    refine .directory (by decide) (List.forall_mem_singleton.mpr (hname _ (by decide))) ?_
    exact List.forall_mem_singleton.mpr (.file _)
  refine .directory (by decide) ?_ ?_
  · exact List.forall_mem_cons.mpr
      ⟨hname _ (by decide), List.forall_mem_singleton.mpr (hname _ (by decide))⟩
  · exact List.forall_mem_cons.mpr ⟨hmore, List.forall_mem_singleton.mpr (.file _)⟩

/-- What is found in order stays in this order. -/
theorem discover_shelf {paths : List String} {found : List (List String)}
    (hfound : paths.mapM (shelf.filesFor (shelf.personal none)) = .ok found)
    (hsorted : found.flatten.Pairwise fun p q => (Path.compare p q).isLE) :
    shelf.discover none paths = .ok (Path.dedup found.flatten) := by
  have hsort : Path.sort found.flatten = found.flatten := List.mergeSort_of_pairwise hsorted
  rw [Disk.discover_eq, hfound]
  exact congrArg (fun files => Except.ok (Path.dedup files)) hsort

end Sample

/-- A file that is reached from its directory and by itself, with one more slash, is found once. -/
theorem files_found_once_iff_sample :
    Sample.shelf.root.WellFormed ∧
    Sample.shelf.discover none ["more/", "more//other.json", "unit.json"] = .ok ["more/other.json", "unit.json"] ∧
    (["more/other.json", "unit.json"].map Sample.shelf.placeOf).Nodup := by
  have hfound : ["more/", "more//other.json", "unit.json"].mapM (Sample.shelf.filesFor (Sample.shelf.personal none)) =
      .ok [["more/other.json"], ["more//other.json"], ["unit.json"]] := by decide +kernel
  have hdiscover : Sample.shelf.discover none ["more/", "more//other.json", "unit.json"] =
      .ok ["more/other.json", "unit.json"] := Sample.discover_shelf hfound (by decide +kernel)
  refine ⟨Sample.wellFormed_shelf, hdiscover, ?_⟩
  apply (files_found_once_iff Sample.wellFormed_shelf hdiscover).2.2.2
  refine ⟨[], fun p hp => ?_⟩
  simp only [List.mem_cons, List.not_mem_nil, or_false] at hp
  rcases hp with rfl | rfl | rfl
  · exact ⟨["more"], by decide⟩
  · exact ⟨["more", "other.json"], by decide⟩
  · exact ⟨["unit.json"], by decide⟩

/-- **One file is found twice**: as itself, and in the current directory, whose `.` its path then starts with. -/
theorem one_file_found_twice :
    Sample.shelf.discover none [".", "unit.json"] = .ok ["./more/other.json", "./unit.json", "unit.json"] ∧
      ¬ ∀ (d : Disk), d.root.WellFormed → ∀ (home : Option String) (paths files : List String),
          d.discover home paths = .ok files → (files.map d.placeOf).Nodup := by
  have hfound : [".", "unit.json"].mapM (Sample.shelf.filesFor (Sample.shelf.personal none)) =
      .ok [["./more/other.json", "./unit.json"], ["unit.json"]] := by decide +kernel
  have hdiscover : Sample.shelf.discover none [".", "unit.json"] =
      .ok ["./more/other.json", "./unit.json", "unit.json"] := Sample.discover_shelf hfound (by decide +kernel)
  refine ⟨hdiscover, fun h => ?_⟩
  exact absurd (h _ Sample.wellFormed_shelf none _ _ hdiscover) (by decide)

end LayerLint
