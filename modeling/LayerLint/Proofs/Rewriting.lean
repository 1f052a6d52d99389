import LayerLint.Proofs.Grammar
import LayerLint.Proofs.Records
import Mathlib.Logic.Relation

/-!
# `Proofs.Rewriting` — texts that read as the same snapshot

The members of a record may be reordered, members of unknown names may be added, and a record may be
written as the array of its fields: the snapshot stays the same, wherever in the text the record stands.
A member that is given twice makes the text unreadable.

Where a record stands is a question of the slots that lead to it. The proof follows them from the outside
in: what is read in a slot depends on a part of it only through what is read in the slot of the part
(`Part.hinges`), so an edit of one record carries over to the whole text.

## Contents
- **Slots.** `Slot.item`, `Slot.member`: the slots inside a slot; `typedDepth`, the nesting of the parts
  that are looked into; `Slot.read`.
- **Fields.** `Hinges`, `Fits`: how the condition of a field depends on what its slot reads.
- **Parts.** `Part`, `Part.hinges`.
- **Edits.** `Reordered`, `Extended`, `ArrayForm`, `Repeated`, and `Within`, an edit inside a text.
- **Texts.** `Edit` and `snapshot_rewriting`.
-/

namespace LayerLint

open Json (Value)

/-! ## Slots -/

namespace Slot

/-- The slot of an item of an array; there is none if the item is not looked into. -/
def item : Slot → Nat → Option Slot
  | plain, _ => some plain
  | record r, i => r.fields[i]?.map (·.slot)
  | list r, _ => some (record r)
  | map _, _ => none

/-- The slot of a member of an object; members of unknown names are not looked into. -/
def member : Slot → List Char → Option Slot
  | plain, _ => some plain
  | record r, k => (r.fields.find? fun f => Json.Quoted.unescape k == some f.name).map (·.slot)
  | list _, _ => none
  | map r, _ => some (record r)

/-- What is read in a slot. -/
def Carrier : Slot → Type
  | plain => Value
  | record r => r.Carrier
  | list r => List r.Carrier
  | map r => IdMap r.Carrier

/-- Reads what stands in a slot, as far as records are concerned. -/
def read : (slot : Slot) → Nat → Value → Option slot.Carrier
  | plain, _, v => some v
  | record r, levels, v => r.decode levels v
  | list r, levels, v => Json.listOf levels r.decode v
  | map r, levels, v => IdMap.decode levels r.decode v

end Slot

mutual

/-- How many objects and arrays are open at once in a value, at most, where it is looked into. -/
def typedDepth : Slot → Value → Nat
  | slot, .array items => typedDepthOfItems slot 0 items + 1
  | slot, .object ms => typedDepthOfMembers slot ms + 1
  | _, _ => 0

/-- The nesting of the items of an array, the first of which has the given index. -/
def typedDepthOfItems : Slot → Nat → List Value → Nat
  | _, _, [] => 0
  | slot, i, v :: vs =>
      max (match slot.item i with
        | some inner => typedDepth inner v
        | none => 0) (typedDepthOfItems slot (i + 1) vs)

/-- The nesting of the members of an object. -/
def typedDepthOfMembers : Slot → List (List Char × Value) → Nat
  | _, [] => 0
  | slot, (k, v) :: ms =>
      max (match slot.member k with
        | some inner => typedDepth inner v
        | none => 0) (typedDepthOfMembers slot ms)

end

theorem typedDepth_le_of_item {slot inner : Slot} {before after : List Value} {v : Value} {start n : Nat}
    (hslot : slot.item (start + before.length) = some inner)
    (h : typedDepthOfItems slot start (before ++ v :: after) ≤ n) : typedDepth inner v ≤ n := by
  induction before generalizing start with
  | nil =>
      rw [List.length_nil, Nat.add_zero] at hslot
      rw [List.nil_append, typedDepthOfItems, hslot] at h
      exact (Nat.max_le.mp h).1
  | cons w before ih =>
      rw [List.cons_append, typedDepthOfItems] at h
      rw [List.length_cons, ← Nat.add_assoc, Nat.add_right_comm] at hslot
      exact ih hslot (Nat.max_le.mp h).2

theorem typedDepth_le_of_member {slot inner : Slot} {before after : List (List Char × Value)}
    {k : List Char} {v : Value} {n : Nat} (hslot : slot.member k = some inner)
    (h : typedDepthOfMembers slot (before ++ (k, v) :: after) ≤ n) : typedDepth inner v ≤ n := by
  induction before with
  | nil =>
      rw [List.nil_append, typedDepthOfMembers, hslot] at h
      exact (Nat.max_le.mp h).1
  | cons m before ih =>
      rw [List.cons_append, typedDepthOfMembers] at h
      exact ih (Nat.max_le.mp h).2

/-! ## Fields -/

/-- What `read` reads depends on a value only through what the slot reads. -/
structure Through {α : Type} (levels : Nat) (slot : Slot) (read : Value → Option α) : Prop where
  keeps : ∀ {v w : Value}, (∀ y, slot.read levels v = some y → slot.read levels w = some y) →
    ∀ {x : α}, read v = some x → read w = some x
  refuses : ∀ {v : Value}, slot.read levels v = none → read v = none

theorem Through.plain {α : Type} {levels : Nat} {read : Value → Option α} : Through levels .plain read where
  keeps h _ hv := Option.some.inj (h _ rfl) ▸ hv
  refuses := nofun

theorem Through.self {levels : Nat} {slot : Slot} : Through levels slot (slot.read levels) where
  keeps h _ hv := h _ hv
  refuses h := h

/-- **The condition hinges on a slot**: of two values that stand there, one may replace the other if it
reads the same, and none meets the condition if it is not read at all. `null` is left out: where a field
may be omitted it says that nothing stands there. -/
structure Hinges (levels : Nat) (slot : Slot) (P : Value → Prop) : Prop where
  keeps : ∀ {v w : Value}, v ≠ .null → w ≠ .null →
    (∀ y, slot.read levels v = some y → slot.read levels w = some y) → P v → P w
  refuses : ∀ {v : Value}, v ≠ .null → slot.read levels v = none → ¬P v

/-- **The condition fits the field**: it hinges on the slot of the field, and a default that is written
out meets it where the default itself would. -/
structure Fits (levels : Nat) (f : RecordField) (P : Clause) : Prop
    extends Hinges levels f.slot fun v => P (some v) where
  writtenOut : P none → ∀ d ∈ f.defaults, typedDepth f.slot d ≤ levels → P (some d)

namespace Fits

open Json

variable {α : Type} {levels : Nat} {name : String} {slot : Slot} {defaults : List Value}
  {read : Value → Option α} {x default : α}

theorem required (h : Through levels slot read) :
    Fits levels ⟨name, slot, defaults⟩ fun given => Json.required read given = some x where
  keeps _ _ hvw hv := h.keeps hvw hv
  refuses _ hv hread := nomatch (h.refuses hv).symm.trans hread
  writtenOut := nofun

theorem named {κ : Type} {ofName : String → κ} {k : κ} :
    Fits levels ⟨name, .plain, defaults⟩ fun given =>
      (Json.required (readName levels) given).map ofName = some k where
  keeps _ _ hvw hv := Option.some.inj (hvw _ rfl) ▸ hv
  refuses := nofun
  writtenOut := nofun

theorem withDefault (h : Through levels slot read)
    (hdefaults : ∀ d ∈ defaults, typedDepth slot d ≤ levels → read d = some default) :
    Fits levels ⟨name, slot, defaults⟩ fun given => Json.withDefault default read given = some x where
  keeps _ _ hvw hv := h.keeps hvw hv
  refuses _ hv hread := nomatch (h.refuses hv).symm.trans hread
  writtenOut hnone d hd hdepth := (hdefaults d hd hdepth).trans hnone

theorem optional {x : Option α} (h : Through levels slot read) :
    Fits levels ⟨name, slot, [.null]⟩ fun given => Json.optional read given = some x where
  keeps {v w} hv hw hvw hread := by
    rw [Json.optional, Option.map_eq_some_iff] at hread ⊢
    · obtain ⟨y, hy, rfl⟩ := hread
      exact ⟨y, h.keeps hvw hy, rfl⟩
    · exact hw
    · exact hv
  refuses {v} hv hnone hread := by
    rw [Json.optional, h.refuses hnone] at hread
    · cases hread
    · exact hv
  writtenOut hnone d hd _ := by
    obtain rfl := List.mem_singleton.mp hd
    exact hnone

end Fits

/-- A list without items is read where one more level may be opened. -/
theorem listOf_nil {α : Type} {levels : Nat} {item : Nat → Value → Option α} {slot : Slot}
    (h : typedDepth slot (.array []) ≤ levels) : Json.listOf levels item (.array []) = some [] := by
  cases levels with
  | zero => exact absurd h (by rw [typedDepth]; omega)
  | succ levels => rfl

theorem decodeMap_nil {α : Type} {levels : Nat} {item : Nat → Value → Option α} {slot : Slot}
    (h : typedDepth slot (.object []) ≤ levels) : IdMap.decode levels item (.object []) = some ∅ := by
  cases levels with
  | zero => exact absurd h (by rw [typedDepth]; omega)
  | succ levels => rfl

theorem decode_encode_span {levels : Nat} (h : typedDepth (.record .span) (Span.encode {}) ≤ levels) :
    Span.decode levels (Span.encode {}) = some {} := by
  cases levels with
  | zero => exact absurd h (by rw [Span.encode, Value.record, typedDepth]; omega)
  | succ levels => rfl

/-- The empty table may be written without its maps or with them. -/
theorem decode_emptyTable {levels : Nat} : ∀ d ∈ [Value.object [], SymbolTable.encode {}],
    typedDepth (.record .table) d ≤ levels → SymbolTable.decode levels d = some {} := by
  intro d hd hdepth
  rw [List.mem_cons, List.mem_singleton] at hd
  rcases hd with rfl | rfl
  · cases levels with
    | zero => exact absurd hdepth (by decide)
    | succ levels => rfl
  · match levels with
    | 0 => exact absurd hdepth (by decide)
    | 1 => exact absurd hdepth (by decide)
    | levels + 2 => rfl

/-- **Every condition of a record fits its field.** -/
theorem RecordKind.fits (r : RecordKind) (levels : Nat) (x : r.Carrier) :
    List.Forall₂ (Fits levels) r.fields (r.clauses levels x) := by
  have hnat : Json.readId (.nat 0) = some 0 := rfl
  have htext : Json.readText (.text "") = some "" := rfl
  cases r with
  | span =>
      exact .cons (.required .plain) <| .cons (.required .plain) <| .cons (.required .plain) <|
        .cons (.required .plain) .nil
  | node =>
      exact .cons (.withDefault .plain (by simp [hnat])) <| .cons (.required .plain) <|
        .cons (.withDefault .self (by simpa using decode_encode_span)) <|
        .cons (.optional .plain) <| .cons (.optional .self) <| .cons (.optional .plain) <|
        .cons (.withDefault .plain (by simpa using listOf_nil)) <|
        .cons (.withDefault .plain (by simpa using listOf_nil)) <|
        .cons (.withDefault .self (by simpa using listOf_nil)) .nil
  | unit =>
      exact .cons (.required .plain) <| .cons (.withDefault .plain (by simp [htext])) <|
        .cons (.required .self) .nil
  | type =>
      exact .cons (.required .plain) <| .cons (.required .plain) <| .cons .named <|
        .cons (.optional .plain) <| .cons (.withDefault .plain (by simpa using listOf_nil)) .nil
  | attr => exact .cons (.required .plain) <| .cons (.optional .plain) .nil
  | symbol =>
      exact .cons (.required .plain) <| .cons (.required .plain) <| .cons .named <|
        .cons (.optional .self) <| .cons (.optional .plain) <|
        .cons (.withDefault .self (by simpa using listOf_nil)) .nil
  | table =>
      exact .cons (.withDefault .self (by simpa using decodeMap_nil)) <|
        .cons (.withDefault .self (by simpa using decodeMap_nil)) <|
        .cons (.withDefault .plain (by simpa using decodeMap_nil)) <|
        .cons (.withDefault .self (by simpa using decodeMap_nil)) .nil
  | snapshot =>
      exact .cons (.required .self) <| .cons (.withDefault .self decode_emptyTable) .nil

theorem forall₂_at {α β : Type} {R : α → β → Prop} {xs : List α} {ys : List β} (h : List.Forall₂ R xs ys)
    {i : Nat} {x : α} {y : β} (hx : xs[i]? = some x) (hy : ys[i]? = some y) : R x y := by
  obtain ⟨hi, rfl⟩ := List.getElem?_eq_some_iff.mp hx
  obtain ⟨hi', rfl⟩ := List.getElem?_eq_some_iff.mp hy
  exact h.get hi hi'

/-! ## Parts -/

/-- **A part of what stands in a slot**, with the slot of the part: `whole v` has `v` there. -/
inductive Part : Slot → Slot → (Value → Value) → Prop where
  | item {slot inner : Slot} (before after : List Value) : slot.item before.length = some inner →
      Part slot inner fun v => .array (before ++ v :: after)
  | member {slot inner : Slot} (before after : List (List Char × Value)) (k : List Char) :
      slot.member k = some inner → Part slot inner fun v => .object (before ++ (k, v) :: after)

theorem Part.ne_null {slot inner : Slot} {whole : Value → Value} (h : Part slot inner whole) (v : Value) :
    whole v ≠ .null := by
  cases h <;> exact nofun

/-- A part is nested one level less deep. -/
theorem Part.typedDepth_le {slot inner : Slot} {whole : Value → Value} (h : Part slot inner whole)
    {v : Value} {n : Nat} (hdepth : typedDepth slot (whole v) ≤ n + 1) : typedDepth inner v ≤ n := by
  cases h with
  | item before after hslot =>
      rw [typedDepth] at hdepth
      exact typedDepth_le_of_item (by rwa [Nat.zero_add]) (Nat.le_of_succ_le_succ hdepth)
  | member before after k hslot =>
      rw [typedDepth] at hdepth
      exact typedDepth_le_of_member hslot (Nat.le_of_succ_le_succ hdepth)

/-- In a list that is read item by item, one item is read, and another that reads the same may stand in
its place. -/
theorem mapM_replace {α β : Type} {f : α → Option β} {before after : List α} {a : α} {ys : List β}
    (h : (before ++ a :: after).mapM f = some ys) :
    (∃ z, f a = some z) ∧
      ∀ b, (∀ z, f a = some z → f b = some z) → (before ++ b :: after).mapM f = some ys := by
  induction before generalizing ys with
  | nil =>
      rw [List.nil_append, List.mapM_cons, Option.bind_eq_bind, Option.bind_eq_some_iff] at h
      obtain ⟨z, hz, hrest⟩ := h
      refine ⟨⟨z, hz⟩, fun b hb => ?_⟩
      rw [List.nil_append, List.mapM_cons, hb z hz]
      exact hrest
  | cons c before ih =>
      rw [List.cons_append, List.mapM_cons, Option.bind_eq_bind, Option.bind_eq_some_iff] at h
      obtain ⟨y, hy, h⟩ := h
      rw [Option.bind_eq_bind, Option.bind_eq_some_iff] at h
      obtain ⟨rest, hrest, hys⟩ := h
      obtain ⟨hread, hreplace⟩ := ih hrest
      refine ⟨hread, fun b hb => ?_⟩
      rw [List.cons_append, List.mapM_cons, hy, hreplace b hb]
      exact hys

namespace RecordKind

variable {r : RecordKind} {n : Nat}

theorem mem_fieldNames {i : Nat} {f : RecordField} (h : r.fields[i]? = some f) : f.name ∈ r.fieldNames :=
  List.mem_map_of_mem (List.mem_of_getElem? h)

/-- A member of a known name stands for a field. -/
theorem exists_field_of_member {k : List Char} {inner : Slot} (h : (Slot.record r).member k = some inner) :
    ∃ (i : Nat) (f : RecordField),
      r.fields[i]? = some f ∧ Json.Quoted.unescape k = some f.name ∧ f.slot = inner := by
  obtain ⟨f, hfind, hslot⟩ := Option.map_eq_some_iff.mp h
  obtain ⟨i, hi⟩ := List.getElem?_of_mem (List.mem_of_find?_eq_some hfind)
  have hname := List.find?_some hfind
  exact ⟨i, f, hi, beq_iff_eq.mp hname, hslot⟩

theorem name_ne_of_ne {i j : Nat} {f g : RecordField} (hf : r.fields[i]? = some f)
    (hg : r.fields[j]? = some g) (h : j ≠ i) : f.name ≠ g.name := by
  intro heq
  have hname : r.fieldNames[i]? = r.fieldNames[j]? := by
    rw [fieldNames, List.getElem?_map, List.getElem?_map, hf, hg, Option.map_some, Option.map_some, heq]
  have hi : i < r.fieldNames.length := by
    rw [fieldNames, List.length_map]
    exact (List.getElem?_eq_some_iff.mp hf).1
  exact h ((List.getElem?_inj hi r.nodup_fieldNames).mp hname).symm

/-- A record hinges on the slot of a field, if `whole v` gives `v` for it and the rest does not change
with `v`. -/
theorem hinges {i : Nat} {x : r.Carrier} {f : RecordField} {whole : Value → Value}
    (hf : r.fields[i]? = some f)
    (hlists : ∀ {v w}, (whole v).Lists r.fieldNames → (whole w).Lists r.fieldNames)
    (hgiven : ∀ {v}, (whole v).Lists r.fieldNames → (whole v).given? i f.name = some v)
    (hothers : ∀ {v w j g}, r.fields[j]? = some g → j ≠ i →
      (whole w).given? j g.name = (whole v).given? j g.name) :
    Hinges n f.slot fun v => r.decode (n + 1) (whole v) = some x where
  keeps {v w} hv hw hvw hread := by
    obtain ⟨hlist, hmeets⟩ := decode_succ_iff.mp hread
    refine decode_succ_iff.mpr ⟨hlists hlist, fun j g P hg hP => ?_⟩
    have hmeet := hmeets j g P hg hP
    by_cases hj : j = i
    · subst hj
      obtain rfl := Option.some.inj (hg.symm.trans hf)
      rw [hgiven hlist] at hmeet
      rw [hgiven (hlists hlist)]
      exact (forall₂_at (r.fits n x) hg hP).keeps hv hw hvw hmeet
    · rw [hothers hg hj]
      exact hmeet
  refuses {v} hv hnone hread := by
    obtain ⟨hlist, hmeets⟩ := decode_succ_iff.mp hread
    obtain ⟨hi, -⟩ := List.getElem?_eq_some_iff.mp hf
    have hP := List.getElem?_eq_getElem (r.length_clauses n x ▸ hi : i < (r.clauses n x).length)
    have hmeet := hmeets i f _ hf hP
    rw [hgiven hlist] at hmeet
    exact (forall₂_at (r.fits n x) hf hP).refuses hv hnone hmeet

end RecordKind

/-- If a name is given at most once, no member before or behind the one that has it has it too. -/
theorem membersNamed_eq_nil {before after : List (List Char × Value)} {k : List Char} {v : Value}
    {name : String} (hone : (Json.membersNamed (before ++ (k, v) :: after) name).length ≤ 1)
    (hk : Json.Quoted.unescape k = some name) :
    Json.membersNamed before name = [] ∧ Json.membersNamed after name = [] := by
  simp only [Json.membersNamed, List.filter_append, List.filter_cons, hk, beq_self_eq_true, if_true,
    List.length_append, List.length_cons] at hone ⊢
  exact ⟨List.eq_nil_of_length_eq_zero (by omega), List.eq_nil_of_length_eq_zero (by omega)⟩

theorem lists_replace {names : List String} {before after : List (List Char × Value)} {k : List Char}
    {v : Value} (h : (Value.object (before ++ (k, v) :: after)).Lists names) (w : Value) :
    (Value.object (before ++ (k, w) :: after)).Lists names := by
  obtain ⟨hread, hone⟩ := h
  refine ⟨?_, fun name hname => ?_⟩
  · simp only [List.forall_mem_append, List.forall_mem_cons] at hread ⊢
    exact hread
  · have hv := hone name hname
    simp only [Json.membersNamed, List.filter_append, List.filter_cons] at hv ⊢
    split at hv <;> simp_all

namespace Part

/-- What has parts is not read where no level may be opened. -/
theorem read_zero {slot inner : Slot} {whole : Value → Value} (h : Part slot inner whole)
    (hinner : inner ≠ .plain) (v : Value) : slot.read 0 (whole v) = none := by
  cases slot with
  | plain => cases h with
    | item _ _ hslot => exact absurd (Option.some.inj hslot).symm hinner
    | member _ _ _ hslot => exact absurd (Option.some.inj hslot).symm hinner
  | record r => exact r.decode_zero _
  | list r => cases h <;> rfl
  | map r => cases h <;> rfl

variable {r : RecordKind} {n : Nat}

theorem hinges_listItem (before after : List Value) {y : List r.Carrier} :
    Hinges n (.record r) fun v =>
      Json.listOf (n + 1) r.decode (.array (before ++ v :: after)) = some y where
  keeps {_ w} _ _ hvw hread := (mapM_replace hread).2 w hvw
  refuses _ hnone hread := by
    obtain ⟨z, hz⟩ := (mapM_replace hread).1
    exact nomatch hnone.symm.trans hz

theorem hinges_mapMember (before after : List (List Char × Value)) (k : List Char) {y : IdMap r.Carrier} :
    Hinges n (.record r) fun v =>
      IdMap.decode (n + 1) r.decode (.object (before ++ (k, v) :: after)) = some y where
  keeps {v w} _ _ hvw hread := by
    obtain ⟨entries, hentries, hy⟩ := Option.map_eq_some_iff.mp hread
    refine Option.map_eq_some_iff.mpr ⟨entries, (mapM_replace hentries).2 (k, w) fun z hz => ?_, hy⟩
    obtain ⟨i, hi, hz⟩ := Option.bind_eq_some_iff.mp hz
    obtain ⟨a, ha, hz⟩ := Option.bind_eq_some_iff.mp hz
    exact Option.bind_eq_some_iff.mpr ⟨i, hi, Option.bind_eq_some_iff.mpr ⟨a, hvw a ha, hz⟩⟩
  refuses {v} _ hnone hread := by
    obtain ⟨entries, hentries, -⟩ := Option.map_eq_some_iff.mp hread
    obtain ⟨z, hz⟩ := (mapM_replace hentries).1
    obtain ⟨i, -, hz⟩ := Option.bind_eq_some_iff.mp hz
    obtain ⟨a, ha, -⟩ := Option.bind_eq_some_iff.mp hz
    exact nomatch hnone.symm.trans ha

theorem hinges_recordItem {f : RecordField} (before after : List Value)
    (hf : r.fields[before.length]? = some f) {x : r.Carrier} :
    Hinges n f.slot fun v => r.decode (n + 1) (.array (before ++ v :: after)) = some x := by
  refine RecordKind.hinges hf ?_ ?_ ?_
  · intro v w hlist
    simpa [Value.Lists] using hlist
  · intro v _
    simp [Value.given?]
  · intro v w j g _ hj
    simp only [Value.given?, List.getElem?_append]
    split
    · rfl
    · rw [List.getElem?_cons, List.getElem?_cons, if_neg (by omega), if_neg (by omega)]

theorem hinges_recordMember {i : Nat} {f : RecordField} (before after : List (List Char × Value))
    {k : List Char} (hf : r.fields[i]? = some f) (hk : Json.Quoted.unescape k = some f.name)
    {x : r.Carrier} :
    Hinges n f.slot fun v => r.decode (n + 1) (.object (before ++ (k, v) :: after)) = some x := by
  refine RecordKind.hinges hf (fun hlist => lists_replace hlist _) ?_ ?_
  · intro v hlist
    obtain ⟨hbefore, hafter⟩ := membersNamed_eq_nil (hlist.2 f.name (RecordKind.mem_fieldNames hf)) hk
    have hnamed : Json.membersNamed (before ++ (k, v) :: after) f.name = [(k, v)] := by
      unfold Json.membersNamed at hbefore hafter ⊢
      simp [hk, hbefore, hafter]
    rw [Value.given?, hnamed]
    rfl
  · intro v w j g hg hj
    have hne := RecordKind.name_ne_of_ne hf hg hj
    simp [Value.given?, Json.membersNamed, List.filter_append, hk, hne]

/-- **What is read in a slot hinges on the slot of each part.** -/
theorem hinges {slot inner : Slot} {whole : Value → Value} (h : Part slot inner whole)
    (hinner : inner ≠ .plain) {y : slot.Carrier} :
    Hinges n inner fun v => slot.read (n + 1) (whole v) = some y := by
  cases h with
  | item before after hslot =>
      cases slot with
      | plain => exact absurd (Option.some.inj hslot).symm hinner
      | map r => cases hslot
      | list r =>
          obtain rfl := Option.some.inj hslot
          exact hinges_listItem before after
      | record r =>
          obtain ⟨f, hf, rfl⟩ := Option.map_eq_some_iff.mp hslot
          exact hinges_recordItem before after hf
  | member before after k hslot =>
      cases slot with
      | plain => exact absurd (Option.some.inj hslot).symm hinner
      | list r => cases hslot
      | map r =>
          obtain rfl := Option.some.inj hslot
          exact hinges_mapMember before after k
      | record r =>
          obtain ⟨i, f, hf, hk, rfl⟩ := RecordKind.exists_field_of_member hslot
          exact hinges_recordMember before after hf hk

end Part

/-! ## Edits -/

/-- The members of a record are reordered. -/
def Reordered (_ : RecordKind) (v w : Value) : Prop :=
  ∃ ms ms', ms'.Perm ms ∧ v = .object ms ∧ w = .object ms'

/-- A record gets a member with a name that is none of its fields. The value of the member is any. -/
def Extended (r : RecordKind) (v w : Value) : Prop :=
  ∃ before after k name x, Json.Quoted.unescape k = some name ∧ name ∉ r.fieldNames ∧
    v = .object (before ++ after) ∧ w = .object (before ++ (k, x) :: after)

/-- A record is written as the array of all its fields in order; defaults are written out. -/
def ArrayForm (r : RecordKind) (v w : Value) : Prop :=
  ∃ ms items, v = .object ms ∧ w = .array items ∧
    List.Forall₂ (fun f item => (∃ m ∈ ms, Json.Quoted.unescape m.1 = some f.name ∧ m.2 = item) ∨
      (∀ m ∈ ms, Json.Quoted.unescape m.1 ≠ some f.name) ∧ item ∈ f.defaults) r.fields items

/-- A record gets a second member for a field that it gives already. -/
def Repeated (r : RecordKind) (v w : Value) : Prop :=
  ∃ before after k name x, Json.Quoted.unescape k = some name ∧ name ∈ r.fieldNames ∧
    (∃ m ∈ before ++ after, Json.Quoted.unescape m.1 = some name) ∧
    v = .object (before ++ after) ∧ w = .object (before ++ (k, x) :: after)

/-- **An edit inside**: one record, at any depth of what stands in the slot, is edited. -/
inductive Within (edit : RecordKind → Value → Value → Prop) : Slot → Value → Value → Prop where
  | here {r : RecordKind} {v w : Value} : edit r v w → Within edit (.record r) v w
  | inside {slot inner : Slot} {whole : Value → Value} {v w : Value} : Part slot inner whole →
      Within edit inner v w → Within edit slot (whole v) (whole w)

theorem Within.ne_plain {edit : RecordKind → Value → Value → Prop} {slot : Slot} {v w : Value}
    (h : Within edit slot v w) : slot ≠ .plain := by
  induction h with
  | here => exact nofun
  | inside hpart _ ih =>
      rintro rfl
      cases hpart with
      | item _ _ hslot => exact ih (Option.some.inj hslot).symm
      | member _ _ _ hslot => exact ih (Option.some.inj hslot).symm

section Within

variable {edit : RecordKind → Value → Value → Prop}

theorem Within.ne_null (hedit : ∀ {r v w}, edit r v w → v ≠ .null ∧ w ≠ .null) {slot : Slot} {v w : Value}
    (h : Within edit slot v w) : v ≠ .null ∧ w ≠ .null := by
  cases h with
  | here h => exact hedit h
  | inside hpart => exact ⟨hpart.ne_null _, hpart.ne_null _⟩

/-- **An edit that keeps what a record is read as** keeps what the whole is read as. The edit may depend
on a bound for the nesting of what comes out (`bounded`). -/
theorem Within.keeps {bounded : Prop} (hnull : ∀ {r v w}, edit r v w → v ≠ .null ∧ w ≠ .null)
    (hedit : ∀ {r v w levels} {x : r.Carrier}, edit r v w → (bounded → typedDepth (.record r) w ≤ levels) →
      r.decode levels v = some x → r.decode levels w = some x)
    {slot : Slot} {v w : Value} (h : Within edit slot v w) {levels : Nat}
    (hdepth : bounded → typedDepth slot w ≤ levels) :
    ∀ {y : slot.Carrier}, slot.read levels v = some y → slot.read levels w = some y := by
  -- From the edited record outwards: a level is used up for each container that is left.
  induction h generalizing levels with
  | here h => exact hedit h hdepth
  | inside hpart hwithin ih =>
      intro y hread
      cases levels with
      | zero => exact nomatch (hpart.read_zero hwithin.ne_plain _).symm.trans hread
      | succ n =>
          obtain ⟨hv, hw⟩ := hwithin.ne_null hnull
          have hbound : bounded → typedDepth _ _ ≤ n := fun hb => hpart.typedDepth_le (hdepth hb)
          exact (hpart.hinges hwithin.ne_plain).keeps hv hw (fun z hz => ih hbound hz) hread

/-- **An edit that makes a record unreadable** makes the whole unreadable. -/
theorem Within.refuses (hnull : ∀ {r v w}, edit r v w → v ≠ .null ∧ w ≠ .null)
    (hedit : ∀ {r v w} (levels : Nat), edit r v w → r.decode levels w = none)
    {slot : Slot} {v w : Value} (h : Within edit slot v w) (levels : Nat) : slot.read levels w = none := by
  induction h generalizing levels with
  | here h => exact hedit levels h
  | inside hpart hwithin ih =>
      cases levels with
      | zero => exact hpart.read_zero hwithin.ne_plain _
      | succ n =>
          refine Option.eq_none_iff_forall_ne_some.mpr fun y => ?_
          exact (hpart.hinges hwithin.ne_plain).refuses (hwithin.ne_null hnull).2 (ih n)

end Within

/-- A record that gives the same for its fields is read the same. -/
theorem RecordKind.decode_of_given {r : RecordKind} {levels : Nat} {v w : Value} {x : r.Carrier}
    (hread : r.decode levels v = some x)
    (h : v.Lists r.fieldNames → w.Lists r.fieldNames ∧
      ∀ (i : Nat) (f : RecordField), r.fields[i]? = some f → w.given? i f.name = v.given? i f.name) :
    r.decode levels w = some x := by
  cases levels with
  | zero => exact nomatch (r.decode_zero v).symm.trans hread
  | succ n =>
      obtain ⟨hlists, hmeets⟩ := decode_succ_iff.mp hread
      obtain ⟨hlists', hgiven⟩ := h hlists
      refine decode_succ_iff.mpr ⟨hlists', fun i f P hf hP => ?_⟩
      rw [hgiven i f hf]
      exact hmeets i f P hf hP

theorem Reordered.keeps {r : RecordKind} {v w : Value} {levels : Nat} {x : r.Carrier} (h : Reordered r v w)
    (hread : r.decode levels v = some x) : r.decode levels w = some x := by
  obtain ⟨ms, ms', hperm, rfl, rfl⟩ := h
  have hnamed : ∀ name, (Json.membersNamed ms' name).Perm (Json.membersNamed ms name) :=
    fun name => hperm.filter _
  refine RecordKind.decode_of_given hread fun ⟨hread, hone⟩ => ⟨⟨?_, ?_⟩, ?_⟩
  · exact fun m hm => hread m (hperm.mem_iff.mp hm)
  · intro name hname
    rw [(hnamed name).length_eq]
    exact hone name hname
  · intro i f hf
    -- a list of at most one member has one order
    have hlength := hone f.name (RecordKind.mem_fieldNames hf)
    have heq : Json.membersNamed ms' f.name = Json.membersNamed ms f.name := by
      have hperm := hnamed f.name
      match hms : Json.membersNamed ms f.name with
      | [] => exact List.perm_nil.mp (hms ▸ hperm)
      | [m] => exact List.perm_singleton.mp (hms ▸ hperm)
      | _ :: _ :: _ =>
          rw [hms, List.length_cons, List.length_cons] at hlength
          omega
    rw [Value.given?, Value.given?, heq]

theorem Extended.keeps {r : RecordKind} {v w : Value} {levels : Nat} {x : r.Carrier} (h : Extended r v w)
    (hread : r.decode levels v = some x) : r.decode levels w = some x := by
  obtain ⟨before, after, k, name, extra, hk, hname, rfl, rfl⟩ := h
  have hnamed : ∀ known ∈ r.fieldNames, Json.membersNamed (before ++ (k, extra) :: after) known =
      Json.membersNamed (before ++ after) known := by
    intro known hknown
    have hne : name ≠ known := fun heq => hname (heq ▸ hknown)
    simp [Json.membersNamed, List.filter_append, hk, hne]
  refine RecordKind.decode_of_given hread fun ⟨hread, hone⟩ => ⟨⟨?_, ?_⟩, ?_⟩
  · simp only [List.forall_mem_append, List.forall_mem_cons] at hread ⊢
    exact ⟨hread.1, Option.isSome_of_eq_some hk, hread.2⟩
  · intro known hknown
    rw [hnamed known hknown]
    exact hone known hknown
  · intro i f hf
    rw [Value.given?, Value.given?, hnamed f.name (RecordKind.mem_fieldNames hf)]

theorem given?_of_mem {ms : List (List Char × Value)} {m : List Char × Value} {name : String} {i : Nat}
    (hone : (Json.membersNamed ms name).length ≤ 1) (hm : m ∈ ms)
    (hname : Json.Quoted.unescape m.1 = some name) : (Value.object ms).given? i name = some m.2 := by
  have hmem : m ∈ Json.membersNamed ms name := List.mem_filter.mpr ⟨hm, beq_iff_eq.mpr hname⟩
  match hms : Json.membersNamed ms name with
  | [] => exact nomatch hms ▸ hmem
  | [m'] =>
      rw [hms, List.mem_singleton] at hmem
      rw [Value.given?, hms, hmem]
      rfl
  | _ :: _ :: _ =>
      rw [hms, List.length_cons, List.length_cons] at hone
      omega

theorem given?_of_forall_ne {ms : List (List Char × Value)} {name : String} {i : Nat}
    (h : ∀ m ∈ ms, Json.Quoted.unescape m.1 ≠ some name) : (Value.object ms).given? i name = none := by
  have hnil : Json.membersNamed ms name = [] :=
    List.filter_eq_nil_iff.mpr fun m hm heq => h m hm (beq_iff_eq.mp heq)
  rw [Value.given?, hnil]
  rfl

theorem typedDepth_item_le {r : RecordKind} {items : List Value} {n i : Nat} {f : RecordField} {v : Value}
    (h : typedDepth (.record r) (.array items) ≤ n + 1) (hf : r.fields[i]? = some f)
    (hv : items[i]? = some v) : typedDepth f.slot v ≤ n := by
  obtain ⟨hi, rfl⟩ := List.getElem?_eq_some_iff.mp hv
  have hitem : (Slot.record r).item (items.take i).length = some f.slot := by
    rw [List.length_take_of_le (Nat.le_of_lt hi), Slot.item, hf, Option.map_some]
  have hpart := Part.item (items.take i) (items.drop (i + 1)) hitem
  refine hpart.typedDepth_le ?_
  simpa using h

theorem ArrayForm.keeps {r : RecordKind} {v w : Value} {levels : Nat} {x : r.Carrier} (h : ArrayForm r v w)
    (hdepth : typedDepth (.record r) w ≤ levels) (hread : r.decode levels v = some x) :
    r.decode levels w = some x := by
  obtain ⟨ms, items, rfl, rfl, hitems⟩ := h
  cases levels with
  | zero => exact nomatch (r.decode_zero _).symm.trans hread
  | succ n =>
      obtain ⟨⟨-, hone⟩, hmeets⟩ := RecordKind.decode_succ_iff.mp hread
      have hlength : items.length = r.fieldNames.length := by
        rw [RecordKind.fieldNames, List.length_map, hitems.length_eq]
      refine RecordKind.decode_succ_iff.mpr ⟨Nat.le_of_eq hlength, fun i f P hf hP => ?_⟩
      have hmeet := hmeets i f P hf hP
      have hi : i < items.length := by
        rw [← hitems.length_eq]
        exact (List.getElem?_eq_some_iff.mp hf).1
      have hitem := List.getElem?_eq_getElem hi
      have hgiven : (Value.array items).given? i f.name = some items[i] := hitem
      rw [hgiven]
      rcases forall₂_at hitems hf hitem with ⟨m, hm, hname, heq⟩ | ⟨habsent, hdefault⟩
      · rw [given?_of_mem (hone f.name (RecordKind.mem_fieldNames hf)) hm hname] at hmeet
        rw [← heq]
        exact hmeet
      · rw [given?_of_forall_ne habsent] at hmeet
        have hbound := typedDepth_item_le hdepth hf hitem
        exact (forall₂_at (r.fits n x) hf hP).writtenOut hmeet _ hdefault hbound

theorem Repeated.refuses {r : RecordKind} {v w : Value} (levels : Nat) (h : Repeated r v w) :
    r.decode levels w = none := by
  obtain ⟨before, after, k, name, extra, hk, hname, ⟨m, hm, hmname⟩, rfl, rfl⟩ := h
  cases levels with
  | zero => exact r.decode_zero _
  | succ n =>
      refine Option.eq_none_iff_forall_ne_some.mpr fun x hread => ?_
      obtain ⟨⟨-, hone⟩, -⟩ := RecordKind.decode_succ_iff.mp hread
      obtain ⟨hbefore, hafter⟩ := membersNamed_eq_nil (hone name hname) hk
      have hmem : m ∈ Json.membersNamed before name ++ Json.membersNamed after name := by
        rw [Json.membersNamed, Json.membersNamed, ← List.filter_append]
        exact List.mem_filter.mpr ⟨hm, beq_iff_eq.mpr hmname⟩
      rw [hbefore, hafter] at hmem
      cases hmem

/-! ## Texts -/

/-- **An edit of a text**: blanks are changed between the words; or a record anywhere in it is reordered,
extended, or written as an array that does not nest too deep. -/
def Edit (s t : String) : Prop :=
  ∃ v w, Json.Spells v s ∧ Json.Spells w t ∧
    (v = w ∨ Within Reordered (.record .snapshot) v w ∨ Within Extended (.record .snapshot) v w ∨
      Within ArrayForm (.record .snapshot) v w ∧ typedDepth (.record .snapshot) w ≤ Snapshot.maxLevels)

theorem parse_eq_decode {v : Value} {s : String} (h : Json.Spells v s) :
    Snapshot.parse s = (Slot.record .snapshot).read Snapshot.maxLevels v := by
  rw [Snapshot.parse, Json.parse_eq_some_iff.mpr h]
  rfl

/-- **One edit** keeps the snapshot. -/
theorem Edit.keeps {s t : String} {x : Snapshot} (h : Edit s t) (hs : Snapshot.parse s = some x) :
    Snapshot.parse t = some x := by
  obtain ⟨v, w, hv, hw, h⟩ := h
  rw [parse_eq_decode hv] at hs
  rw [parse_eq_decode hw]
  rcases h with rfl | h | h | ⟨h, hdepth⟩
  · exact hs
  · refine h.keeps ?_ (fun h _ => h.keeps) False.elim hs
    rintro r v w ⟨_, _, _, rfl, rfl⟩
    exact ⟨nofun, nofun⟩
  · refine h.keeps ?_ (fun h _ => h.keeps) False.elim hs
    rintro r v w ⟨_, _, _, _, _, _, _, rfl, rfl⟩
    exact ⟨nofun, nofun⟩
  · refine h.keeps ?_ (fun h hdepth => h.keeps (hdepth trivial)) (fun _ => hdepth) hs
    rintro r v w ⟨_, _, rfl, rfl, _⟩
    exact ⟨nofun, nofun⟩

/-- **Texts of one snapshot.** Whatever edits a text goes through, the snapshot it is read as stays the
same; a text with a second member for a field of some record is not read. -/
theorem snapshot_rewriting (s t : String) :
    (Relation.ReflTransGen Edit s t → ∀ x, Snapshot.parse s = some x → Snapshot.parse t = some x) ∧
    ∀ v w, Json.Spells v s → Json.Spells w t → Within Repeated (.record .snapshot) v w →
      Snapshot.parse t = none := by
  constructor
  · intro h x hs
    induction h with
    | refl => exact hs
    | tail _ hedit ih => exact hedit.keeps ih
  · intro v w _ hw h
    rw [parse_eq_decode hw]
    refine h.refuses ?_ Repeated.refuses Snapshot.maxLevels
    rintro r v w ⟨_, _, _, _, _, _, _, _, rfl, rfl⟩
    exact ⟨nofun, nofun⟩

namespace Sample

/-- A unit with a path and a root. -/
def unitMembers : List (List Char × Value) :=
  [("path".toList, .text "a"), ("root".toList, .object [("kind".toList, .text "block")])]

/-- The unit as an array, with its text written out. -/
def unitItems : List Value := [.text "a", .text "", .object [("kind".toList, .text "block")]]

/-- A member that no snapshot knows. -/
def note : List Char × Value := ("note".toList, .array [.array [.null]])

def plainText : String := "\x7b\"unit\":\x7b\"path\":\"a\",\"root\":\x7b\"kind\":\"block\"\x7d\x7d\x7d"

def extendedText : String :=
  "\x7b\"note\":[[null]],\"unit\":\x7b\"path\":\"a\",\"root\":\x7b\"kind\":\"block\"\x7d\x7d\x7d"

def arrayText : String :=
  "\x7b\"note\": [[null]], \"unit\": [\"a\", \"\", \x7b\"kind\": \"block\"\x7d]\x7d\n"

def repeatedText : String :=
  "\x7b\"unit\":\x7b\"path\":\"b\",\"path\":\"a\",\"root\":\x7b\"kind\":\"block\"\x7d\x7d\x7d"

theorem spells_plainText : Json.Spells (.object [("unit".toList, .object unitMembers)]) plainText :=
  Json.parse_eq_some_iff.mp (by rfl)

theorem spells_extendedText :
    Json.Spells (.object [note, ("unit".toList, .object unitMembers)]) extendedText :=
  Json.parse_eq_some_iff.mp (by rfl)

theorem spells_repeatedText :
    Json.Spells (.object [("unit".toList, .object (("path".toList, .text "b") :: unitMembers))])
      repeatedText :=
  Json.parse_eq_some_iff.mp (by rfl)

theorem edit_plainText : Edit plainText extendedText := by
  refine ⟨_, _, spells_plainText, spells_extendedText, .inr (.inr (.inl (.here ?_)))⟩
  exact ⟨[], _, _, "note", _, rfl, by decide, rfl, rfl⟩

theorem part_unit (before : List (List Char × Value)) :
    Part (.record .snapshot) (.record .unit) fun v => .object (before ++ [("unit".toList, v)]) :=
  .member before [] "unit".toList rfl

theorem edit_extendedText : Edit extendedText arrayText := by
  have hspells : Json.Spells (.object [note, ("unit".toList, .array unitItems)]) arrayText :=
    Json.parse_eq_some_iff.mp (by rfl)
  refine ⟨_, _, spells_extendedText, hspells,
    .inr (.inr (.inr ⟨.inside (part_unit [note]) (.here ?_), ?_⟩))⟩
  · refine ⟨unitMembers, unitItems, rfl, rfl, ?_⟩
    refine .cons (.inl ⟨_, .head _, rfl, rfl⟩) (.cons (.inr ⟨?_, .head _⟩) (.cons (.inl ?_) .nil))
    · decide
    · exact ⟨_, .tail _ (.head _), rfl, rfl⟩
  · decide

end Sample

open Sample in
theorem snapshot_rewriting_sample :
    Snapshot.parse arrayText = some { unit := { path := "a", text := "", root := .leaf .block } } ∧
      Snapshot.parse repeatedText = none := by
  constructor
  · have hedits := (Relation.ReflTransGen.single edit_plainText).tail edit_extendedText
    exact (snapshot_rewriting plainText arrayText).1 hedits _ (by rfl)
  · refine (snapshot_rewriting plainText repeatedText).2 _ _ spells_plainText spells_repeatedText
      (.inside (part_unit []) (.here ?_))
    exact ⟨[], unitMembers, "path".toList, "path", .text "b", rfl, by decide, ⟨_, .head _, rfl⟩, rfl, rfl⟩

end LayerLint
