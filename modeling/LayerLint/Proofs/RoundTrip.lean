import LayerLint.Proofs.Grammar
import LayerLint.Proofs.Records

/-!
# `Proofs.RoundTrip` — a snapshot that is written reads back

Writing leaves out options that are absent and lists that are empty; reading puts them back. The proof
goes by the type of what is written: leaves first, then lists and maps, then records through the
conditions on their fields. Each level of nesting that is written is one that the reader must be allowed
to open.

## Contents
- **Numbers and texts.** `natBelow?_ofNat` and `unescape_escape`.
- **Values.** `Value.All`, `Value.Tidy`, and `parse_compact`: tidy values are read back from their text.
- **Nesting.** `Value.depth`.
- **Written forms.** `Writes`: a tidy value that reads as `x` wherever it may be nested so deep; its laws
  for leaves, lists, maps (`Writes.idMap`) and records (`Writes.record`).
- **Snapshots.** A written form for each kind of record; `Snapshot.Written`, in which the entries of a map
  are listed in any order, and `snapshot_round_trip`.
-/

namespace LayerLint

open Json (Value)

namespace Json

/-! ## Numbers and texts -/

namespace Number

theorem isDigits_toDigits (n : Nat) : IsDigits (Nat.toDigits 10 n) :=
  ⟨Nat.toDigits_ne_nil, fun _ hc => Nat.isDigit_of_mem_toDigits (by decide) (by decide) hc⟩

theorem head?_toDigits {n : Nat} (hn : 0 < n) : (Nat.toDigits 10 n).head? ≠ some '0' := by
  induction n using Nat.strongRecOn with
  | ind n ih =>
      by_cases hsmall : n < 10
      · have hall : ∀ m < 10, 0 < m → ([Nat.digitChar m] : List Char).head? ≠ some '0' := by decide
        rw [Nat.toDigits_of_lt_base hsmall]
        exact hall n hsmall hn
      · rw [Nat.toDigits_of_base_le (by decide) (by omega),
          List.head?_append_of_ne_nil _ Nat.toDigits_ne_nil]
        exact ih (n / 10) (by omega) (by omega)

/-- Decimal digits of a count are those of a whole part: no zero stands in front. -/
theorem isWholePart_toDigits (n : Nat) : IsWholePart (Nat.toDigits 10 n) := by
  by_cases hn : n = 0
  · exact Or.inl (by rw [hn]; rfl)
  · exact Or.inr ⟨isDigits_toDigits n, head?_toDigits (by omega)⟩

theorem digitsValue_toDigits (n : Nat) : digitsValue (Nat.toDigits 10 n) = n := by
  have hfold : digitsValue (Nat.toDigits 10 n) = Nat.ofDigitChars 10 (Nat.toDigits 10 n) 0 := by
    rw [Nat.ofDigitChars_eq_foldl]
    unfold digitsValue
    congr 1
    funext m c
    rw [Nat.mul_comm]
    rfl
  rw [hfold, Nat.ofDigitChars_ten_toDigits]

theorem text_ofNat (n : Nat) : (ofNat n).text = Nat.toDigits 10 n := by simp [ofNat, text]

theorem spells_ofNat (n : Nat) : (ofNat n).Spells (ofNat n).text :=
  ⟨[], [], by simp [ofNat, text], isWholePart_toDigits n, .absent, .absent⟩

theorem spells_ofInt (i : Int) : (ofInt i).Spells (ofInt i).text :=
  ⟨[], [], by simp [ofInt, text], isWholePart_toDigits i.natAbs, .absent, .absent⟩

/-- A count is read as itself if it is below the bound. -/
theorem natBelow?_ofNat {n bound : Nat} (h : n < bound) : (ofNat n).natBelow? bound = some n := by
  simp [natBelow?, nat?, ofNat, isWhole, digitsValue_toDigits, h]

end Number

namespace Quoted

/-- A control character is escaped by its number. -/
theorem hexUnit?_of_lt {n : Nat} (h : n < 0x20) :
    hexUnit? '0' '0' (hexDigit (n / 16)) (hexDigit (n % 16)) = some n := by
  have hall : ∀ m < 0x20, hexUnit? '0' '0' (hexDigit (m / 16)) (hexDigit (m % 16)) = some m := by decide
  exact hall n h

/-- The written form of a character is a short escape, the number of a control character, or the
character itself. -/
theorem escapeChar_cases (c : Char) :
    (∃ e, escapeChar c = ['\\', e] ∧ shortEscape? e = some c) ∨
    (escapeChar c = ['\\', 'u', '0', '0', hexDigit (c.toNat / 16), hexDigit (c.toNat % 16)] ∧
      c.toNat < 0x20) ∨
    (escapeChar c = [c] ∧ c ≠ '"' ∧ c ≠ '\\' ∧ 0x20 ≤ c.toNat) := by
  by_cases hshort : c ∈ ['"', '\\', '\x08', '\x0c', '\n', '\r', '\t']
  · left
    simp only [List.mem_cons, List.not_mem_nil, or_false] at hshort
    rcases hshort with rfl | rfl | rfl | rfl | rfl | rfl | rfl <;> exact ⟨_, rfl, rfl⟩
  · right
    simp only [List.mem_cons, List.not_mem_nil, or_false, not_or] at hshort
    obtain ⟨hquote, hslash, h₁, h₂, h₃, h₄, h₅⟩ := hshort
    simp only [escapeChar, hquote, hslash, h₁, h₂, h₃, h₄, h₅, if_false]
    by_cases hctl : c.toNat < 0x20
    · exact Or.inl ⟨if_pos hctl, hctl⟩
    · exact Or.inr ⟨if_neg hctl, hquote, hslash, by omega⟩

/-- The written form of a text is well formed. -/
theorem wellFormed_escape (s : List Char) : WellFormed (escape s) := by
  induction s with
  | nil => exact .nil
  | cons c s ih =>
      rw [escape, List.flatMap_cons]
      rcases escapeChar_cases c with ⟨e, heq, he⟩ | ⟨heq, hctl⟩ | ⟨heq, hquote, hslash, hctl⟩
      · rw [heq]
        exact .short (isSome_shortEscape?.mp (by rw [he]; rfl)) ih
      · rw [heq]
        obtain ⟨ha, hb, hc, hd⟩ := isSome_hexUnit?.mp (Option.isSome_of_eq_some (hexUnit?_of_lt hctl))
        exact .unicode ha hb hc hd ih
      · rw [heq]
        exact .plain hquote hslash hctl ih

/-- The written form of a character reads as the character. -/
theorem unescapeFrom_escapeChar (c : Char) (done rest : List Char) :
    unescapeFrom none done (escapeChar c ++ rest) = unescapeFrom none (c :: done) rest := by
  rcases escapeChar_cases c with ⟨e, heq, he⟩ | ⟨heq, hctl⟩ | ⟨heq, -, hslash, -⟩
  · have hu : e ≠ 'u' := by rintro rfl; exact nomatch he
    rw [heq]
    simp [unescapeFrom, he, hu]
  · have hunit := hexUnit?_of_lt hctl
    have hleading : isLeading c.toNat = false := by simp [isLeading]; omega
    have htrailing : isTrailing c.toNat = false := by simp [isTrailing]; omega
    rw [heq]
    simp [unescapeFrom, hunit, hleading, htrailing]
  · rw [heq]
    show unescapeFrom none done (c :: rest) = _
    rw [unescapeFrom] <;> simp_all

theorem unescapeFrom_escape (s done : List Char) :
    unescapeFrom none done (escape s) = some (done.reverse ++ s) := by
  induction s generalizing done with
  | nil => simp [escape, unescapeFrom]
  | cons c s ih =>
      rw [escape, List.flatMap_cons, unescapeFrom_escapeChar]
      rw [escape] at ih
      rw [ih, List.reverse_cons, List.append_assoc]
      rfl

/-- **What is written between quotes reads back.** -/
@[simp] theorem unescape_escape (s : String) : unescape (escape s.toList) = some s := by
  rw [unescape, unescapeFrom_escape]
  simp

end Quoted

/-! ## Values -/

namespace Value

/-- The values directly inside a value. -/
def parts : Value → List Value
  | array items => items
  | object ms => ms.map (·.2)
  | _ => []

/-- The value and all that it is made of have a property. -/
inductive All (p : Value → Prop) : Value → Prop where
  | intro {v : Value} : p v → (∀ w ∈ v.parts, All p w) → All p v

variable {p q : Value → Prop}

theorem All.self {v : Value} (h : v.All p) : p v := by
  cases h with
  | intro hv _ => exact hv

theorem All.imp (hpq : ∀ v, p v → q v) {v : Value} (h : v.All p) : v.All q := by
  induction h with
  | intro hv _ ih => exact .intro (hpq _ hv) ih

/-- **Tidiness**: numbers and texts are in written form, no list is empty, and there is no null. -/
def Tidy : Value → Prop
  | null => False
  | bool _ => True
  | number n => n.Spells n.text
  | string raw => Quoted.WellFormed raw
  | array items => items ≠ []
  | object ms => ∀ m ∈ ms, Quoted.WellFormed m.1

section

variable {p : Token → Prop}

theorem forall_mem_itemTokens {items : List Value} (h : ∀ v ∈ items, ∀ t ∈ v.tokens, p t)
    (hcomma : p .comma) (hclose : p .closeBracket) : ∀ t ∈ itemTokens items, p t := by
  have hmore : ∀ vs : List Value, (∀ v ∈ vs, ∀ t ∈ v.tokens, p t) → ∀ t ∈ moreItemTokens vs, p t := by
    intro vs hvs
    induction vs with
    | nil => simpa [moreItemTokens] using hclose
    | cons v vs ih =>
        obtain ⟨hv, hvs⟩ := List.forall_mem_cons.mp hvs
        rw [moreItemTokens, List.cons_append, List.forall_mem_cons, List.forall_mem_append]
        exact ⟨hcomma, hv, ih hvs⟩
  cases items with
  | nil => simpa [itemTokens] using hclose
  | cons v vs =>
      obtain ⟨hv, hvs⟩ := List.forall_mem_cons.mp h
      rw [itemTokens, List.forall_mem_append]
      exact ⟨hv, hmore vs hvs⟩

theorem forall_mem_memberTokens {ms : List (List Char × Value)}
    (h : ∀ m ∈ ms, p (.quoted m.1) ∧ ∀ t ∈ m.2.tokens, p t) (hcolon : p .colon) (hcomma : p .comma)
    (hclose : p .closeBrace) : ∀ t ∈ memberTokens ms, p t := by
  have hmore : ∀ ms : List (List Char × Value), (∀ m ∈ ms, p (.quoted m.1) ∧ ∀ t ∈ m.2.tokens, p t) →
      ∀ t ∈ moreMemberTokens ms, p t := by
    intro ms hms
    induction ms with
    | nil => simpa [moreMemberTokens] using hclose
    | cons m ms ih =>
        obtain ⟨⟨hkey, hvalue⟩, hms⟩ := List.forall_mem_cons.mp hms
        rw [moreMemberTokens]
        simp only [List.cons_append, List.forall_mem_cons, List.forall_mem_append]
        exact ⟨hcomma, hkey, hcolon, hvalue, ih hms⟩
  cases ms with
  | nil => simpa [memberTokens] using hclose
  | cons m ms =>
      obtain ⟨⟨hkey, hvalue⟩, hms⟩ := List.forall_mem_cons.mp h
      rw [memberTokens]
      simp only [List.cons_append, List.forall_mem_cons, List.forall_mem_append]
      exact ⟨hkey, hcolon, hvalue, hmore ms hms⟩

end

/-- The tokens of a tidy value are spelled by their own text. -/
theorem All.spells_text {v : Value} (h : v.All Tidy) : ∀ t ∈ v.tokens, t.Spells t.text := by
  induction h with
  | @intro v hv _ ih =>
      cases v with
      | null => exact hv.elim
      | bool b =>
          rw [tokens, List.forall_mem_singleton]
          rfl
      | number n =>
          rw [tokens, List.forall_mem_singleton]
          exact hv
      | string raw =>
          rw [tokens, List.forall_mem_singleton]
          exact ⟨hv, rfl⟩
      | array items =>
          rw [tokens, List.forall_mem_cons]
          exact ⟨rfl, forall_mem_itemTokens ih rfl rfl⟩
      | object ms =>
          rw [tokens, List.forall_mem_cons]
          refine ⟨rfl, forall_mem_memberTokens (fun m hm => ⟨⟨hv m hm, rfl⟩, ?_⟩) rfl rfl rfl⟩
          exact ih m.2 (List.mem_map_of_mem hm)

/-- Tokens without blanks between them space themselves out. -/
theorem spaced_flatMap_text {ts : List Token} (h : ∀ t ∈ ts, t.Spells t.text) :
    Spaced ts (ts.flatMap Token.text) := by
  induction ts with
  | nil => exact .nil nofun
  | cons t ts ih =>
      obtain ⟨ht, hts⟩ := List.forall_mem_cons.mp h
      have hblanks : Blanks [] := nofun
      exact .cons hblanks ht (ih hts)

/-- **A tidy value is read back** from its text. -/
theorem parse_compact {v : Value} (h : v.All Tidy) : parse v.compact = some v := by
  refine parse_eq_some_iff.mpr ?_
  rw [Spells, compact, String.toList_ofList]
  exact spaced_flatMap_text h.spells_text

/-! ## Nesting -/

mutual

/-- How many objects and arrays are open at once in a value, at most. -/
def depth : Value → Nat
  | array items => depthOfItems items + 1
  | object ms => depthOfMembers ms + 1
  | _ => 0

/-- The nesting inside an array. -/
def depthOfItems : List Value → Nat
  | [] => 0
  | v :: vs => max v.depth (depthOfItems vs)

/-- The nesting inside an object. -/
def depthOfMembers : List (List Char × Value) → Nat
  | [] => 0
  | (_, v) :: ms => max v.depth (depthOfMembers ms)

end

theorem depthOfItems_le_iff {items : List Value} {n : Nat} :
    depthOfItems items ≤ n ↔ ∀ v ∈ items, v.depth ≤ n := by
  induction items with
  | nil => simp [depthOfItems]
  | cons v vs ih => rw [depthOfItems, Nat.max_le, ih, List.forall_mem_cons]

theorem depthOfMembers_le_iff {ms : List (List Char × Value)} {n : Nat} :
    depthOfMembers ms ≤ n ↔ ∀ m ∈ ms, m.2.depth ≤ n := by
  induction ms with
  | nil => simp [depthOfMembers]
  | cons m ms ih => rw [depthOfMembers, Nat.max_le, ih, List.forall_mem_cons]

/-- A container of some depth needs one level more than what is inside. -/
theorem depth_array_le {items : List Value} {n : Nat} (h : (array items).depth ≤ n) :
    ∃ inner, n = inner + 1 ∧ ∀ v ∈ items, v.depth ≤ inner := by
  rw [depth] at h
  exact ⟨n - 1, by omega, depthOfItems_le_iff.mp (by omega)⟩

theorem depth_object_le {ms : List (List Char × Value)} {n : Nat} (h : (object ms).depth ≤ n) :
    ∃ inner, n = inner + 1 ∧ ∀ m ∈ ms, m.2.depth ≤ inner := by
  rw [depth] at h
  exact ⟨n - 1, by omega, depthOfMembers_le_iff.mp (by omega)⟩

end Value

end Json

/-! ## Ids -/

namespace Json

/-- The digits of an id are read as the id. -/
theorem readIdKey_toDigits (k : Id) : readIdKey (Nat.toDigits 10 k.toNat) = some k := by
  have hstops : Number.Stops [] := nofun
  have hscan := Number.scan_complete (Number.spells_ofNat k.toNat) hstops
  rw [List.append_nil, Number.text_ofNat] at hscan
  rw [readIdKey, hscan]
  simp [Number.natBelow?_ofNat (show k.toNat < idBound from k.toNat_lt)]

/-- Digits may stand between quotes. -/
theorem Number.IsDigits.wellFormed {ds : List Char} (h : Number.IsDigits ds) : Quoted.WellFormed ds := by
  obtain ⟨-, h⟩ := h
  induction ds with
  | nil => exact .nil
  | cons c ds ih =>
      obtain ⟨hc, hds⟩ := List.forall_mem_cons.mp h
      have hrange : 48 ≤ c.toNat ∧ c.toNat ≤ 57 := by
        rw [Char.isDigit, Bool.and_eq_true, decide_eq_true_eq, decide_eq_true_eq] at hc
        exact ⟨UInt32.le_iff_toNat_le.mp hc.1, UInt32.le_iff_toNat_le.mp hc.2⟩
      have hne : ∀ d : Char, d.toNat < 48 ∨ 57 < d.toNat → c ≠ d := by
        rintro d hd rfl
        omega
      exact .plain (hne _ (by decide)) (hne _ (by decide)) (by omega) (ih hds)

end Json

/-! ## Written forms -/

/-- **The value is a written form of `x`**: it is tidy, and it reads as `x` where it may be nested so
deep. -/
structure Writes {α : Type} (read : Nat → Value → Option α) (v : Value) (x : α) : Prop where
  tidy : v.All Value.Tidy
  reads : ∀ {levels : Nat}, v.depth ≤ levels → read levels v = some x

namespace Writes

open Json Value

variable {α : Type}

/-- Texts and numbers are leaves: no level is needed to read them. -/
theorem text (s : String) : Writes (fun _ => readText) (.text s) s where
  tidy := .intro (Quoted.wellFormed_escape s.toList) nofun
  reads _ := Quoted.unescape_escape s

theorem nat {β : Type} {bound n : Nat} {read : Value → Option β} {x : β} (hn : n < bound)
    (hread : ∀ k : Number, k.natBelow? bound = some n → read (.number k) = some x) :
    Writes (fun _ => read) (.nat n) x where
  tidy := .intro (Number.spells_ofNat n) nofun
  reads _ := hread _ (Number.natBelow?_ofNat hn)

theorem word (w : UInt64) : Writes (fun _ => readWord) (.nat w.toNat) w :=
  nat w.toNat_lt fun k hk => by simp [readWord, readCount, wordBound, hk]

theorem id (i : Id) : Writes (fun _ => readId) (.nat i.toNat) i :=
  nat i.toNat_lt fun k hk => by simp [readId, idBound, hk]

/-- Names of kinds are texts. -/
theorem name (s : String) : Writes readName (.text s) s where
  tidy := (text s).tidy
  reads _ := Quoted.unescape_escape s

/-- A list that is not empty is written item by item. -/
theorem list {item : Nat → Value → Option α} {encode : α → Value} {xs : List α} (hne : xs ≠ [])
    (h : ∀ x ∈ xs, Writes item (encode x) x) :
    Writes (fun levels => listOf levels item) (.array (xs.map encode)) xs where
  tidy := by
    refine .intro (by simpa [Tidy] using hne) fun w hw => ?_
    obtain ⟨x, hx, rfl⟩ := List.mem_map.mp hw
    exact (h x hx).tidy
  reads hdepth := by
    obtain ⟨inner, rfl, hitems⟩ := depth_array_le hdepth
    show (xs.map encode).mapM (item inner) = some xs
    rw [mapM_eq_some_iff, List.forall₂_map_left_iff, List.forall₂_same]
    exact fun x hx => (h x hx).reads (hitems _ (List.mem_map_of_mem hx))

/-- A map is written entry by entry, in any order. -/
theorem idMap {item : Nat → Value → Option α} {encode : α → Value} {m : IdMap α} {entries : List (Id × α)}
    (hperm : entries.Perm m.entries) (h : ∀ e ∈ entries, Writes item (encode e.2) e.2) :
    Writes (fun levels => IdMap.decode levels item)
      (.object (entries.map fun (k, a) => (Nat.toDigits 10 k.toNat, encode a))) m where
  tidy := by
    refine .intro ?_ fun w hw => ?_
    · intro e he
      obtain ⟨⟨k, a⟩, -, rfl⟩ := List.mem_map.mp he
      exact (Number.isDigits_toDigits k.toNat).wellFormed
    · simp only [parts, List.map_map, List.mem_map, Function.comp_apply] at hw
      obtain ⟨e, he, rfl⟩ := hw
      exact (h e he).tidy
  reads hdepth := by
    obtain ⟨inner, rfl, hmembers⟩ := depth_object_le hdepth
    have hread : idMembers (inner + 1) item
        (.object (entries.map fun (k, a) => (Nat.toDigits 10 k.toNat, encode a))) = some entries := by
      show (entries.map _).mapM _ = some entries
      rw [mapM_eq_some_iff, List.forall₂_map_left_iff, List.forall₂_same]
      rintro ⟨k, a⟩ he
      have ha := (h _ he).reads (hmembers _ (List.mem_map_of_mem he))
      simp [readIdKey_toDigits, ha]
    simp only [IdMap.decode, hread, Option.map_some, IdMap.ofList_eq_of_perm hperm]

end Writes

/-! ## Written records -/

/-- The members that are written for what is given: fields for which nothing is given are left out. -/
def givenMembers : List String → List (Option Value) → List (String × Value)
  | name :: names, some v :: given => (name, v) :: givenMembers names given
  | _ :: names, none :: given => givenMembers names given
  | _, _ => []

theorem givenMembers_option {α : Type} (name : String) (names : List String) (encode : α → Value)
    (a : Option α) (given : List (Option Value)) :
    givenMembers (name :: names) (a.map encode :: given) =
      optionalMember name encode a ++ givenMembers names given := by
  cases a <;> rfl

/-- What is given for a list: nothing if it is empty. -/
def givenList {α : Type} (encode : α → Value) (l : List α) : Option Value :=
  if l.isEmpty then none else some (.array (l.map encode))

theorem givenMembers_list {α : Type} (name : String) (names : List String) (encode : α → Value)
    (l : List α) (given : List (Option Value)) :
    givenMembers (name :: names) (givenList encode l :: given) =
      listMember name encode l ++ givenMembers names given := by
  cases l <;> rfl

theorem sublist_givenMembers (names : List String) (given : List (Option Value)) :
    ((givenMembers names given).map (·.1)).Sublist names := by
  fun_induction givenMembers names given with
  | case1 name names v given ih => exact ih.cons_cons name
  | case2 name names given ih => exact ih.cons name
  | case3 => exact List.nil_sublist _

theorem mem_givenMembers {names : List String} {given : List (Option Value)} {m : String × Value}
    (h : m ∈ givenMembers names given) : some m.2 ∈ given := by
  fun_induction givenMembers names given with
  | case1 name names v given ih =>
      rcases List.mem_cons.mp h with rfl | h
      · exact List.mem_cons_self
      · exact List.mem_cons_of_mem _ (ih h)
  | case2 name names given ih => exact List.mem_cons_of_mem _ (ih h)
  | case3 => cases h

/-- The members of a field are what is given for it. -/
theorem filter_givenMembers {names : List String} {given : List (Option Value)} (hnames : names.Nodup)
    {i : Nat} {name : String} {g : Option Value} (hname : names[i]? = some name)
    (hgiven : given[i]? = some g) :
    (givenMembers names given).filter (·.1 == name) = g.toList.map fun v => (name, v) := by
  induction names generalizing given i with
  | nil => cases hname
  | cons first names ih =>
      obtain ⟨hfirst, hnames⟩ := List.nodup_cons.mp hnames
      have hnone : ∀ given, (givenMembers names given).filter (·.1 == first) = [] := by
        intro given
        rw [List.filter_eq_nil_iff]
        intro m hm heq
        have hmem := (sublist_givenMembers names given).subset (List.mem_map_of_mem hm)
        exact hfirst (beq_iff_eq.mp heq ▸ hmem)
      cases given with
      | nil => cases hgiven
      | cons g₀ given =>
          cases i with
          | zero =>
              obtain rfl := Option.some.inj hname
              obtain rfl := Option.some.inj hgiven
              cases g₀ <;> simp [givenMembers, hnone]
          | succ i =>
              have hne : first ≠ name := by
                rintro rfl
                exact hfirst (List.mem_of_getElem? hname)
              cases g₀ <;> simp [givenMembers, hne, ih hnames hname hgiven]

theorem membersNamed_record (members : List (String × Value)) (name : String) :
    Json.membersNamed (members.map fun (k, v) => (Json.Quoted.escape k.toList, v)) name =
      (members.filter (·.1 == name)).map fun (k, v) => (Json.Quoted.escape k.toList, v) := by
  rw [Json.membersNamed, List.filter_map]
  congr 1
  refine List.filter_congr fun m _ => ?_
  simp

/-- What is written for the fields of a record gives each of them. -/
theorem fields_givenMembers {names : List String} {given : List (Option Value)} (hnames : names.Nodup)
    (hlength : given.length = names.length) :
    Json.fields names (.record (givenMembers names given)) = some given := by
  have hnamed : ∀ {i : Nat} {name : String} {g : Option Value}, names[i]? = some name →
      given[i]? = some g → Json.membersNamed ((givenMembers names given).map fun (k, v) =>
        (Json.Quoted.escape k.toList, v)) name =
          g.toList.map fun v => (Json.Quoted.escape name.toList, v) := by
    intro i name g hname hgiven
    rw [membersNamed_record, filter_givenMembers hnames hname hgiven, List.map_map]
    rfl
  refine Json.fields_eq_some_iff.mpr ⟨⟨fun m hm => ?_, fun name hname => ?_⟩, List.ext_getElem? fun i => ?_⟩
  · obtain ⟨⟨k, v⟩, -, rfl⟩ := List.mem_map.mp hm
    rw [Json.Quoted.unescape_escape]
    rfl
  · obtain ⟨i, hi, hname⟩ := List.getElem_of_mem hname
    obtain ⟨g, hg⟩ : ∃ g, given[i]? = some g := ⟨_, List.getElem?_eq_getElem (hlength ▸ hi)⟩
    rw [hnamed (List.getElem?_eq_some_iff.mpr ⟨hi, hname⟩) hg, List.length_map]
    cases g <;> simp
  · rw [List.getElem?_mapIdx]
    cases hname : names[i]? with
    | none =>
        rw [List.getElem?_eq_none_iff] at hname
        rw [Option.map_none, List.getElem?_eq_none_iff]
        omega
    | some name =>
        obtain ⟨hi, -⟩ := List.getElem?_eq_some_iff.mp hname
        obtain ⟨g, hg⟩ : ∃ g, given[i]? = some g := ⟨_, List.getElem?_eq_getElem (hlength ▸ hi)⟩
        rw [hg, Option.map_some, Value.record, Value.given?, hnamed hname hg]
        cases g <;> rfl

/-- What a record gives for its fields is nested one level less deep than the record. -/
theorem depth_of_given {names : List String} {given : List (Option Value)} (hnames : names.Nodup)
    (hlength : given.length = names.length) {levels : Nat}
    (hdepth : (Value.record (givenMembers names given)).depth ≤ levels) :
    ∃ inner, levels = inner + 1 ∧ ∀ v, some v ∈ given → v.depth ≤ inner := by
  obtain ⟨inner, rfl, hmembers⟩ := Value.depth_object_le hdepth
  refine ⟨inner, rfl, fun v hv => ?_⟩
  obtain ⟨i, hi, hgiven⟩ := List.getElem_of_mem hv
  have hname := List.getElem?_eq_getElem (hlength ▸ hi : i < names.length)
  have hfilter := filter_givenMembers hnames hname (List.getElem?_eq_some_iff.mpr ⟨hi, hgiven⟩)
  have hmem : (names[i], v) ∈ givenMembers names given := by
    have hmem : (names[i], v) ∈ (givenMembers names given).filter (·.1 == names[i]) := by
      rw [hfilter]
      simp
    exact (List.mem_filter.mp hmem).1
  exact hmembers _ (List.mem_map_of_mem hmem)

/-- What is given for a field is tidy and meets the condition of the field. -/
structure Gives (clause : Nat → Clause) (given : Option Value) : Prop where
  tidy : ∀ v, given = some v → v.All Value.Tidy
  meets : ∀ {levels : Nat}, (∀ v, given = some v → v.depth ≤ levels) → clause levels given

namespace Gives

open Json

variable {α : Type} {read : Nat → Value → Option α} {v : Value} {x : α} {encode : α → Value}

theorem required (h : Writes read v x) :
    Gives (fun levels given => Json.required (read levels) given = some x) (some v) where
  tidy _ hw := Option.some.inj hw ▸ h.tidy
  meets hdepth := h.reads (hdepth v rfl)

theorem withDefault {default : α} (h : Writes read v x) :
    Gives (fun levels given => Json.withDefault default (read levels) given = some x) (some v) where
  tidy _ hw := Option.some.inj hw ▸ h.tidy
  meets hdepth := h.reads (hdepth v rfl)

/-- A name is given for its kind. -/
theorem named {κ : Type} {ofName : String → κ} {s : String} {k : κ} (h : ofName s = k) :
    Gives (fun levels given => (Json.required (readName levels) given).map ofName = some k)
      (some (.text s)) where
  tidy _ hw := Option.some.inj hw ▸ (Writes.name s).tidy
  meets hdepth := by
    rw [(required (Writes.name s)).meets hdepth, Option.map_some, h]

theorem optional {a : Option α} (h : ∀ x, a = some x → Writes read (encode x) x) :
    Gives (fun levels given => Json.optional (read levels) given = some a) (a.map encode) := by
  cases a with
  | none => exact ⟨nofun, fun _ => rfl⟩
  | some x =>
      have hx := h x rfl
      refine ⟨fun _ hw => Option.some.inj hw ▸ hx.tidy, fun {levels} hdepth => ?_⟩
      have hread := hx.reads (hdepth _ rfl)
      -- a tidy value is not null, which would be read as nothing given
      have hnull : encode x ≠ .null := by
        intro hnull
        exact (hnull ▸ hx.tidy.self : Value.Tidy .null)
      show Json.optional (read levels) (some (encode x)) = some (some x)
      rw [Json.optional, hread, Option.map_some]
      exact hnull

theorem list {item : Nat → Value → Option α} {xs : List α} (h : ∀ x ∈ xs, Writes item (encode x) x) :
    Gives (fun levels given => Json.withDefault [] (listOf levels item) given = some xs)
      (givenList encode xs) := by
  cases xs with
  | nil => exact ⟨nofun, fun _ => rfl⟩
  | cons x xs => exact withDefault (Writes.list (List.cons_ne_nil x xs) h)

theorem tidy_all {clauses : List (Nat → Clause)} {given : List (Option Value)}
    (h : List.Forall₂ Gives clauses given) : ∀ v, some v ∈ given → v.All Value.Tidy := by
  induction h with
  | nil => exact nofun
  | cons hfirst _ ih =>
      intro v hv
      rcases List.mem_cons.mp hv with hv | hv
      · exact hfirst.tidy v hv.symm
      · exact ih v hv

theorem meets_all {clauses : List (Nat → Clause)} {given : List (Option Value)}
    (h : List.Forall₂ Gives clauses given) {levels : Nat}
    (hdepth : ∀ v, some v ∈ given → v.depth ≤ levels) : Meets (clauses.map (· levels)) given := by
  induction h with
  | nil => exact .nil
  | cons hfirst _ ih =>
      refine .cons (hfirst.meets fun v hv => hdepth v (by simp [hv])) (ih fun v hv => hdepth v ?_)
      exact List.mem_cons_of_mem _ hv

end Gives

/-- **A record is written** field by field. -/
theorem Writes.record {r : RecordKind} {x : r.Carrier} {clauses : List (Nat → Clause)}
    {given : List (Option Value)} (h : List.Forall₂ Gives clauses given)
    (hclauses : ∀ levels, r.clauses levels x = clauses.map (· levels)) :
    Writes r.decode (.record (givenMembers r.fieldNames given)) x := by
  have hlength : given.length = r.fieldNames.length := by
    rw [RecordKind.fieldNames, List.length_map, ← r.length_clauses 0 x, hclauses, List.length_map,
      h.length_eq]
  refine ⟨.intro ?_ fun w hw => ?_, fun {levels} hdepth => ?_⟩
  · intro m hm
    obtain ⟨⟨k, v⟩, -, rfl⟩ := List.mem_map.mp hm
    exact Json.Quoted.wellFormed_escape k.toList
  · simp only [Value.record, Value.parts, List.map_map, List.mem_map, Function.comp_apply] at hw
    obtain ⟨m, hm, rfl⟩ := hw
    exact Gives.tidy_all h _ (mem_givenMembers hm)
  · obtain ⟨inner, rfl, hinner⟩ := depth_of_given r.nodup_fieldNames hlength hdepth
    refine RecordKind.decode_iff.mpr ⟨given, fields_givenMembers r.nodup_fieldNames hlength, ?_⟩
    rw [hclauses]
    exact Gives.meets_all h hinner

/-! ## Snapshots -/

theorem Span.writes (s : Span) : Writes Span.decode s.encode s :=
  Writes.record (r := .span)
    (.cons (.required (.word s.startLine)) <| .cons (.required (.word s.startColumn)) <|
      .cons (.required (.word s.endLine)) <| .cons (.required (.word s.endColumn)) .nil)
    fun _ => rfl

theorem Kind.writes (k : Kind) : Writes Kind.decode (.text k.name) k where
  tidy := (Writes.name k.name).tidy
  reads hdepth := by
    rw [Kind.decode, (Writes.name k.name).reads hdepth, Option.map_some, Kind.ofName_name]

theorem Modifier.writes (m : Modifier) : Writes Modifier.decode (.text m.name) m where
  tidy := (Writes.name m.name).tidy
  reads hdepth := by
    rw [Modifier.decode, (Writes.name m.name).reads hdepth, Option.bind_some, Modifier.ofName?_name]

theorem Node.encodeAll_eq (ns : List Node) : Node.encodeAll ns = ns.map Node.encode := by
  induction ns with
  | nil => rfl
  | cons n ns ih => rw [Node.encodeAll, ih, List.map_cons]

/-- What a node gives for its fields. -/
def Node.given (n : Node) : List (Option Value) :=
  [some (.nat n.info.id.toNat), some (.text n.info.kind.name), some n.info.span.encode,
   n.info.identifier.map .text, n.info.identifierSpan.map Span.encode, n.info.text.map .text,
   givenList (fun m => .text m.name) n.info.modifiers, givenList .text n.info.parameters,
   givenList Node.encode n.children]

theorem Node.encode_eq (n : Node) : n.encode = .record (givenMembers Node.fieldNames n.given) := by
  have hmembers : givenMembers Node.fieldNames n.given =
      n.info.encodeMembers ++ listMember "children" Node.encode n.children := by
    simp only [Node.fieldNames, Node.given, givenMembers_option, givenMembers_list, givenMembers,
      NodeInfo.encodeMembers, List.append_assoc, List.append_nil, List.cons_append, List.nil_append]
  rw [hmembers]
  obtain ⟨info, children⟩ := n
  cases children with
  | nil =>
      rw [Node.encode]
      simp [listMember]
  | cons c cs =>
      rw [Node.encode, Node.encodeAll_eq]
      simp [listMember]

mutual

theorem Node.writes : ∀ n : Node, Writes Node.decode n.encode n
  | .mk info children => by
      rw [Node.encode_eq]
      exact Writes.record (r := .node)
        (.cons (.withDefault (.id info.id)) <| .cons (.required (Kind.writes info.kind)) <|
          .cons (.withDefault info.span.writes) <| .cons (.optional fun s _ => .text s) <|
          .cons (.optional fun s _ => s.writes) <| .cons (.optional fun s _ => .text s) <|
          .cons (.list fun m _ => m.writes) <| .cons (.list fun p _ => .text p) <|
          .cons (.list (Node.writes_all children)) .nil)
        fun _ => rfl

theorem Node.writes_all : ∀ ns : List Node, ∀ n ∈ ns, Writes Node.decode n.encode n
  | [], _, hn => nomatch hn
  | first :: ns, n, hn => by
      rcases List.mem_cons.mp hn with h | hn
      · rw [h]
        exact Node.writes first
      · exact Node.writes_all ns n hn

end

theorem CompilationUnit.writes (u : CompilationUnit) : Writes CompilationUnit.decode u.encode u :=
  Writes.record (r := .unit)
    (.cons (.required (.text u.path)) <| .cons (.withDefault (.text u.text)) <|
      .cons (.required u.root.writes) .nil)
    fun _ => rfl

theorem TypeInfo.writes (t : TypeInfo) : Writes TypeInfo.decode t.encode t := by
  have h := Writes.record (r := .type) (x := t)
    (.cons (.required (.id t.id)) <| .cons (.required (.text t.name)) <|
      .cons (.named t.kind.ofName_name) <| .cons (.optional fun s _ => .text s) <|
      .cons (.list fun i _ => .id i) .nil)
    fun _ => rfl
  simp only [RecordKind.fieldNames, RecordKind.fields, List.map_cons, List.map_nil, givenMembers_option,
    givenMembers_list, givenMembers, List.append_nil] at h
  exact h

theorem Attribute.writes (a : Attribute) : Writes Attribute.decode a.encode a := by
  have h := Writes.record (r := .attr) (x := a)
    (.cons (.required (.text a.className)) <| .cons (.optional fun s _ => .text s) .nil) fun _ => rfl
  simp only [RecordKind.fieldNames, RecordKind.fields, List.map_cons, List.map_nil, givenMembers_option,
    givenMembers, List.append_nil] at h
  exact h

theorem Symbol.writes (s : Symbol) : Writes Symbol.decode s.encode s := by
  have h := Writes.record (r := .symbol) (x := s)
    (.cons (.required (.id s.id)) <| .cons (.required (.text s.name)) <|
      .cons (.named s.kind.ofName_name) <| .cons (.optional fun t _ => t.writes) <|
      .cons (.optional fun t _ => .text t) <| .cons (.list fun a _ => a.writes) .nil)
    fun _ => rfl
  simp only [RecordKind.fieldNames, RecordKind.fields, List.map_cons, List.map_nil, givenMembers_option,
    givenMembers_list, givenMembers, List.append_nil, ← List.append_assoc] at h
  exact h

/-- The integer of a written form that has one is the one that was written. -/
theorem Constant.readInt_ofInt (i : SignedWord) : Constant.readInt (Json.Number.ofInt i) = some i := by
  obtain ⟨i, hi⟩ := i
  have hvalue : (if decide (i < 0) = true then -(i.natAbs : Int) else i.natAbs) = i := by
    by_cases hneg : i < 0
    · rw [decide_eq_true hneg, if_pos rfl]
      omega
    · rw [decide_eq_false hneg, if_neg Bool.false_ne_true]
      omega
  -- minus zero is a float
  have hzero : (decide (i < 0) && i.natAbs == 0) = false := by
    rw [Bool.and_eq_false_iff]
    by_cases hneg : i < 0
    · exact .inr (beq_eq_false_iff_ne.mpr (by omega))
    · exact .inl (decide_eq_false hneg)
  simp only [readInt, Json.Number.ofInt, Json.Number.isWhole, Json.Number.digitsValue_toDigits, hzero]
  simp only [SignedWord.ofInt?, hvalue]
  simp [hi]

/-- Constants other than floats are written as they are read. -/
theorem Constant.writes {c : Constant} (h : ∀ bits, c ≠ .float bits) :
    Writes (fun _ => Constant.decode) c.encode c := by
  cases c with
  | bool b => exact ⟨.intro trivial nofun, fun _ => rfl⟩
  | int i =>
      refine ⟨.intro (Json.Number.spells_ofInt i) nofun, fun _ => ?_⟩
      show Constant.decode (.number (Json.Number.ofInt i)) = some (.int i)
      rw [Constant.decode, Constant.readInt_ofInt]
  | float bits => exact absurd rfl (h bits)
  | text s =>
      refine ⟨(Writes.text s).tidy, fun _ => ?_⟩
      show (Json.Quoted.unescape (Json.Quoted.escape s.toList)).map Constant.text = _
      rw [Json.Quoted.unescape_escape, Option.map_some]

/-- A written form of a map: its entries in any order. -/
def IdMap.Written {α : Type} (item : α → Value) (m : IdMap α) (v : Value) : Prop :=
  ∃ entries : List (Id × α), entries.Perm m.entries ∧
    v = .object (entries.map fun (k, a) => (Nat.toDigits 10 k.toNat, item a))

theorem IdMap.Written.writes {α : Type} {read : Nat → Value → Option α} {item : α → Value} {m : IdMap α}
    {v : Value} (h : m.Written item v) (hitem : ∀ k a, m.get? k = some a → Writes read (item a) a) :
    Writes (fun levels => IdMap.decode levels read) v m := by
  obtain ⟨entries, hperm, rfl⟩ := h
  refine Writes.idMap hperm fun e he => hitem e.1 e.2 ?_
  exact (IdMap.find?_eq_some_iff m.nodup_ids).mpr (hperm.mem_iff.mp he)

/-- A written form of a symbol table. -/
def SymbolTable.Written (t : SymbolTable) (v : Value) : Prop :=
  ∃ symbols types constants declarations,
    t.symbols.Written Symbol.encode symbols ∧ t.types.Written TypeInfo.encode types ∧
    t.constants.Written Constant.encode constants ∧ t.declarations.Written Symbol.encode declarations ∧
    v = .record [("symbols", symbols), ("types", types), ("constants", constants),
      ("declarations", declarations)]

/-- **A written form of a snapshot.** Maps keep no order, so their entries may come in any. -/
def Snapshot.Written (s : Snapshot) (v : Value) : Prop :=
  ∃ symbols, s.symbols.Written symbols ∧ v = .record [("unit", s.unit.encode), ("symbols", symbols)]

/-- The table holds no float. -/
def SymbolTable.NoFloats (t : SymbolTable) : Prop := ∀ k bits, t.constants.get? k ≠ some (.float bits)

theorem SymbolTable.Written.writes {t : SymbolTable} {v : Value} (h : t.Written v) (hfloats : t.NoFloats) :
    Writes SymbolTable.decode v t := by
  obtain ⟨_, _, _, _, hsymbols, htypes, hconstants, hdeclarations, rfl⟩ := h
  have hconstant : ∀ k c, t.constants.get? k = some c → Writes (fun _ => Constant.decode) c.encode c :=
    fun k c hc => Constant.writes fun bits hbits => hfloats k bits (hbits ▸ hc)
  exact Writes.record (r := .table)
    (.cons (.withDefault (hsymbols.writes fun _ s _ => s.writes)) <|
      .cons (.withDefault (htypes.writes fun _ t _ => t.writes)) <|
      .cons (.withDefault (hconstants.writes hconstant)) <|
      .cons (.withDefault (hdeclarations.writes fun _ s _ => s.writes)) .nil)
    fun _ => rfl

theorem Snapshot.Written.writes {s : Snapshot} {v : Value} (h : s.Written v)
    (hfloats : s.symbols.NoFloats) : Writes Snapshot.decode v s := by
  obtain ⟨_, hsymbols, rfl⟩ := h
  exact Writes.record (r := .snapshot)
    (.cons (.required s.unit.writes) <| .cons (.withDefault (hsymbols.writes hfloats)) .nil) fun _ => rfl

theorem Snapshot.written_encode (s : Snapshot) : s.Written s.encode :=
  ⟨_, ⟨_, _, _, _, ⟨_, .refl _, rfl⟩, ⟨_, .refl _, rfl⟩, ⟨_, .refl _, rfl⟩, ⟨_, .refl _, rfl⟩, rfl⟩, rfl⟩

/-- **The round trip of snapshots.** A snapshot without floats is read back from its text, and from any
text that lists the entries of its maps in another order, as long as the text does not nest too deep. What
is written holds no null and no empty list: absent options and empty lists are left out. -/
theorem snapshot_round_trip (s : Snapshot) (hfloats : s.symbols.NoFloats) :
    (s.encode.depth ≤ Snapshot.maxLevels → Snapshot.parse s.render = some s) ∧ s.Written s.encode ∧
      ∀ v, s.Written v → v.All (fun w => w ≠ .null ∧ w ≠ .array []) ∧
        (v.depth ≤ Snapshot.maxLevels → Snapshot.parse v.compact = some s) := by
  have hreads : ∀ {v : Value}, s.Written v → v.depth ≤ Snapshot.maxLevels →
      Snapshot.parse v.compact = some s := by
    intro v hv hdepth
    have hwrites := hv.writes hfloats
    rw [Snapshot.parse, Value.parse_compact hwrites.tidy]
    exact hwrites.reads hdepth
  refine ⟨hreads s.written_encode, s.written_encode, fun v hv => ⟨?_, hreads hv⟩⟩
  refine (hv.writes hfloats).tidy.imp fun w hw => ⟨?_, ?_⟩
  · rintro rfl
    exact hw
  · rintro rfl
    exact hw rfl

/-- A class in a file whose path and text need escapes, with a constant below zero. -/
def Snapshot.sample : Snapshot where
  unit := {
    path := "a\\é.cs"
    text := "class \"A\"\n\u0001"
    root := (Node.leaf .compilationUnit).withChildren
      [((Node.leaf .classDecl).named "A").withModifier .isPublic, (Node.leaf .literal).withId 7] }
  symbols := { constants := IdMap.ofList [(7, .int ⟨-5, by decide⟩)] }

theorem snapshot_round_trip_sample : Snapshot.parse Snapshot.sample.render = some Snapshot.sample :=
  (snapshot_round_trip Snapshot.sample (fun k bits => by
    show (IdMap.insert ∅ 7 _).get? k ≠ _
    rw [IdMap.get?_insert]
    split <;> simp [show (∅ : IdMap Constant) = IdMap.empty from rfl])).1 (by decide)

end LayerLint
