import LayerLint.Snapshot
import Mathlib.Data.List.Forall2

/-!
# `Proofs.Records` — what reading a record comes down to

A snapshot is made of eight kinds of records. Each is written as an object or as an array, and each is
read field by field: a field has a condition on what is given for it, and the record is read as `x`
exactly if it lists its fields properly and what it gives for each of them meets the condition that `x`
sets (`decode_succ_iff`). Round trips and rewritings are then questions about single fields.

## Contents
- **Forms.** `Value.Lists`, `Value.given?`, and `fields_eq_some_iff`.
- **Kinds.** `RecordKind` with its fields: their names, the records that stand in them (`Slot`), and how
  their defaults are written out.
- **Conditions.** `RecordKind.clauses`, one for each field.
- **Reading.** `RecordKind.decode_succ_iff`.
-/

namespace LayerLint

open Json (Value)

namespace Json

/-! ## Forms -/

/-- The members of an object whose name spells the given one. -/
def membersNamed (ms : List (List Char × Value)) (name : String) : List (List Char × Value) :=
  ms.filter fun m => Quoted.unescape m.1 == some name

namespace Value

/-- What a record gives for the field with an index and a name. -/
def given? : Value → Nat → String → Option Value
  | array items, i, _ => items[i]?
  | object ms, _, name => (membersNamed ms name).head?.map (·.2)
  | _, _, _ => none

/-- The value has the form of a record with the given fields: an array that is not too long, or an object
whose names can be read and that lists no field twice. -/
def Lists (names : List String) : Value → Prop
  | array items => items.length ≤ names.length
  | object ms => (∀ m ∈ ms, (Quoted.unescape m.1).isSome) ∧
      ∀ name ∈ names, (membersNamed ms name).length ≤ 1
  | _ => False

end Value

/-- A list is read item by item. -/
theorem mapM_eq_some_iff {α β : Type} {f : α → Option β} {xs : List α} {ys : List β} :
    xs.mapM f = some ys ↔ List.Forall₂ (fun x y => f x = some y) xs ys := by
  induction xs generalizing ys with
  | nil => simp [eq_comm]
  | cons x xs ih =>
      simp only [List.mapM_cons, Option.bind_eq_bind, Option.bind_eq_some_iff, Option.pure_def,
        Option.some.injEq, List.forall₂_cons_left_iff, ih]
      constructor
      · rintro ⟨y, hy, ys, hys, rfl⟩
        exact ⟨y, ys, hy, hys, rfl⟩
      · rintro ⟨y, ys, hy, hys, rfl⟩
        exact ⟨y, hy, ys, hys, rfl⟩

theorem exists_forall₂_iff {α β : Type} {f : α → Option β} {xs : List α} :
    (∃ ys, List.Forall₂ (fun x y => f x = some y) xs ys) ↔ ∀ x ∈ xs, (f x).isSome := by
  induction xs with
  | nil => simp
  | cons x xs ih =>
      rw [List.forall_mem_cons, ← ih, Option.isSome_iff_exists]
      constructor
      · rintro ⟨_, hys⟩
        obtain ⟨y, ys, hy, hrest, rfl⟩ := List.forall₂_cons_left_iff.mp hys
        exact ⟨⟨y, hy⟩, ys, hrest⟩
      · rintro ⟨⟨y, hy⟩, ys, hys⟩
        exact ⟨y :: ys, .cons hy hys⟩

/-- A list is read under a condition on its items. -/
theorem forall₂_guard_iff {α β : Type} {p : α → Prop} [DecidablePred p] {g : α → β} {xs : List α}
    {ys : List β} : List.Forall₂ (fun x y => (if p x then some (g x) else none) = some y) xs ys ↔
      (∀ x ∈ xs, p x) ∧ ys = xs.map g := by
  induction xs generalizing ys with
  | nil => simp
  | cons x xs ih =>
      rw [List.forall₂_cons_left_iff, List.forall_mem_cons, List.map_cons]
      constructor
      · rintro ⟨y, ys, hy, hys, rfl⟩
        obtain ⟨hxs, rfl⟩ := ih.mp hys
        split at hy
        · next hx => exact ⟨⟨hx, hxs⟩, by rw [Option.some.inj hy]⟩
        · cases hy
      · rintro ⟨⟨hx, hxs⟩, rfl⟩
        exact ⟨g x, xs.map g, if_pos hx, ih.mpr ⟨hxs, rfl⟩, rfl⟩

/-- A member with its name read. -/
def readMember (m : List Char × Value) : Option (String × Value) := do return (← Quoted.unescape m.1, m.2)

theorem isSome_readMember {m : List Char × Value} :
    (readMember m).isSome ↔ (Quoted.unescape m.1).isSome := by
  unfold readMember
  cases Quoted.unescape m.1 <;> simp

/-- Names that can be read say which members have a given name. -/
theorem filter_named {ms : List (List Char × Value)} {named : List (String × Value)}
    (h : List.Forall₂ (fun m n => readMember m = some n) ms named) (name : String) :
    named.filter (·.1 == name) = (membersNamed ms name).map fun m => (name, m.2) := by
  induction h with
  | nil => rfl
  | @cons m n ms named hm _ ih =>
      obtain ⟨key, hkey, hn⟩ := Option.bind_eq_some_iff.mp hm
      obtain rfl := Option.some.inj hn
      unfold membersNamed at ih ⊢
      by_cases heq : key = name
      · subst heq
        simp [hkey, ih]
      · simp [hkey, heq, ih]

theorem uniqueMember_eq {ms : List (List Char × Value)} {named : List (String × Value)}
    (h : List.Forall₂ (fun m n => readMember m = some n) ms named) (name : String) :
    uniqueMember named name =
      if (membersNamed ms name).length ≤ 1 then some ((membersNamed ms name).head?.map (·.2)) else none := by
  unfold uniqueMember
  rw [filter_named h]
  match membersNamed ms name with
  | [] => rfl
  | [_] => rfl
  | _ :: _ :: _ => simp

theorem fields_object (names : List String) (ms : List (List Char × Value)) :
    fields names (.object ms) = (ms.mapM readMember).bind fun named => names.mapM (uniqueMember named) :=
  rfl

/-- Items come first; fields behind them are not given. -/
theorem given_array {names : List String} {items : List Value} (hlen : items.length ≤ names.length) :
    items.map some ++ List.replicate (names.length - items.length) none =
      names.mapIdx fun i name => (Value.array items).given? i name := by
  apply List.ext_getElem?
  intro i
  rw [List.getElem?_mapIdx, List.getElem?_append, List.getElem?_map, List.length_map,
    List.getElem?_replicate]
  simp only [Value.given?]
  by_cases hi : i < items.length
  · have hin : i < names.length := by omega
    simp [hi, hin]
  · by_cases hin : i < names.length
    · have hrest : i - items.length < names.length - items.length := by omega
      simp [hi, hin, hrest]
    · have hrest : ¬i - items.length < names.length - items.length := by omega
      simp [hi, hin, hrest]

theorem given_object (names : List String) (ms : List (List Char × Value)) :
    (names.mapIdx fun i name => (Value.object ms).given? i name) =
      names.map fun name => (membersNamed ms name).head?.map (·.2) := by
  apply List.ext_getElem?
  intro i
  rw [List.getElem?_mapIdx, List.getElem?_map]
  rfl

/-- **The fields of a record** are given exactly if the record has its form. -/
theorem fields_eq_some_iff {names : List String} {v : Value} {given : List (Option Value)} :
    fields names v = some given ↔
      v.Lists names ∧ given = names.mapIdx fun i name => v.given? i name := by
  cases v with
  | null | bool | number | string => exact ⟨nofun, fun h => h.1.elim⟩
  | array items =>
      simp only [fields, Value.Lists]
      by_cases hlen : items.length ≤ names.length
      · rw [if_pos hlen, given_array hlen, Option.some.injEq, eq_comm, and_iff_right hlen]
      · rw [if_neg hlen]
        exact ⟨nofun, fun h => absurd h.1 hlen⟩
  | object ms =>
      rw [fields_object, Option.bind_eq_some_iff, given_object]
      simp only [mapM_eq_some_iff, Value.Lists]
      constructor
      · rintro ⟨named, hnamed, hgiven⟩
        simp only [uniqueMember_eq hnamed] at hgiven
        obtain ⟨honce, rfl⟩ := forall₂_guard_iff.mp hgiven
        have hread := exists_forall₂_iff.mp ⟨named, hnamed⟩
        exact ⟨⟨fun m hm => isSome_readMember.mp (hread m hm), honce⟩, rfl⟩
      · rintro ⟨⟨hread, honce⟩, rfl⟩
        obtain ⟨named, hnamed⟩ := exists_forall₂_iff.mpr fun m hm => isSome_readMember.mpr (hread m hm)
        refine ⟨named, hnamed, ?_⟩
        simp only [uniqueMember_eq hnamed]
        exact forall₂_guard_iff.mpr ⟨honce, rfl⟩

end Json

/-! ## Kinds -/

/-- The kinds of records in a snapshot. -/
inductive RecordKind where
  | span
  | node
  | unit
  | type
  | attr
  | symbol
  | table
  | snapshot

/-- What stands in a field, as far as records are concerned. -/
inductive Slot where
  /-- No record. -/
  | plain
  /-- A record. -/
  | record (r : RecordKind)
  /-- A list of records. -/
  | list (r : RecordKind)
  /-- A map from ids to records. -/
  | map (r : RecordKind)

/-- A field of a record, with the ways in which its default can be written out; a field without a default
must be given. -/
structure RecordField where
  name : String
  slot : Slot := .plain
  defaults : List Value := []

namespace RecordKind

/-- The fields of a record, in order. -/
def fields : RecordKind → List RecordField
  | span =>
      [{ name := "start_line" }, { name := "start_column" }, { name := "end_line" }, { name := "end_column" }]
  | node =>
      [{ name := "id", defaults := [.nat 0] },
       { name := "kind" },
       { name := "span", slot := .record span, defaults := [Span.encode {}] },
       { name := "identifier", defaults := [.null] },
       { name := "identifier_span", slot := .record span, defaults := [.null] },
       { name := "text", defaults := [.null] },
       { name := "modifiers", defaults := [.array []] },
       { name := "parameters", defaults := [.array []] },
       { name := "children", slot := .list node, defaults := [.array []] }]
  | unit =>
      [{ name := "path" }, { name := "text", defaults := [.text ""] }, { name := "root", slot := .record node }]
  | type =>
      [{ name := "id" }, { name := "name" }, { name := "kind" },
       { name := "namespace", defaults := [.null] },
       { name := "all_interfaces", defaults := [.array []] }]
  | attr => [{ name := "class_name" }, { name := "namespace", defaults := [.null] }]
  | symbol =>
      [{ name := "id" }, { name := "name" }, { name := "kind" },
       { name := "containing_type", slot := .record type, defaults := [.null] },
       { name := "containing_namespace", defaults := [.null] },
       { name := "attributes", slot := .list attr, defaults := [.array []] }]
  | table =>
      [{ name := "symbols", slot := .map symbol, defaults := [.object []] },
       { name := "types", slot := .map type, defaults := [.object []] },
       { name := "constants", defaults := [.object []] },
       { name := "declarations", slot := .map symbol, defaults := [.object []] }]
  | snapshot =>
      [{ name := "unit", slot := .record unit },
       { name := "symbols", slot := .record table, defaults := [.object [], SymbolTable.encode {}] }]

/-- The names of the fields, in order. -/
def fieldNames (r : RecordKind) : List String := r.fields.map (·.name)

theorem nodup_fieldNames (r : RecordKind) : r.fieldNames.Nodup := by
  cases r <;> decide

/-- What a record of the kind is read as. -/
def Carrier : RecordKind → Type
  | span => Span
  | node => Node
  | unit => CompilationUnit
  | type => TypeInfo
  | attr => Attribute
  | symbol => Symbol
  | table => SymbolTable
  | snapshot => Snapshot

/-- Reads a record of the kind. -/
def decode : (r : RecordKind) → Nat → Value → Option r.Carrier
  | span => Span.decode
  | node => Node.decode
  | unit => CompilationUnit.decode
  | type => TypeInfo.decode
  | attr => Attribute.decode
  | symbol => Symbol.decode
  | table => SymbolTable.decode
  | snapshot => Snapshot.decode

theorem decode_zero (r : RecordKind) (v : Value) : r.decode 0 v = none := by
  cases r <;> rfl

end RecordKind

/-! ## Conditions -/

/-- A condition on what is given for a field. -/
abbrev Clause := Option Value → Prop

section Clauses

open Json

/-- What a span needs to be given. -/
def Span.clauses (s : Span) : List Clause :=
  [fun v => required readWord v = some s.startLine,
   fun v => required readWord v = some s.startColumn,
   fun v => required readWord v = some s.endLine,
   fun v => required readWord v = some s.endColumn]

/-- What a node needs to be given; `levels` are left inside it. -/
def Node.clauses (levels : Nat) (n : Node) : List Clause :=
  [fun v => withDefault 0 readId v = some n.info.id,
   fun v => required (Kind.decode levels) v = some n.info.kind,
   fun v => withDefault {} (Span.decode levels) v = some n.info.span,
   fun v => optional readText v = some n.info.identifier,
   fun v => optional (Span.decode levels) v = some n.info.identifierSpan,
   fun v => optional readText v = some n.info.text,
   fun v => withDefault [] (listOf levels Modifier.decode) v = some n.info.modifiers,
   fun v => withDefault [] (listOf levels fun _ => readText) v = some n.info.parameters,
   fun v => withDefault [] (listOf levels Node.decode) v = some n.children]

/-- What a unit needs to be given. -/
def CompilationUnit.clauses (levels : Nat) (u : CompilationUnit) : List Clause :=
  [fun v => required readText v = some u.path,
   fun v => withDefault "" readText v = some u.text,
   fun v => required (Node.decode levels) v = some u.root]

/-- What a type needs to be given. -/
def TypeInfo.clauses (levels : Nat) (t : TypeInfo) : List Clause :=
  [fun v => required readId v = some t.id,
   fun v => required readText v = some t.name,
   fun v => (required (readName levels) v).map TypeKind.ofName = some t.kind,
   fun v => optional readText v = some t.containingNamespace,
   fun v => withDefault [] (listOf levels fun _ => readId) v = some t.interfaces]

/-- What an attribute needs to be given. -/
def Attribute.clauses (a : Attribute) : List Clause :=
  [fun v => required readText v = some a.className,
   fun v => optional readText v = some a.containingNamespace]

/-- What a symbol needs to be given. -/
def Symbol.clauses (levels : Nat) (s : Symbol) : List Clause :=
  [fun v => required readId v = some s.id,
   fun v => required readText v = some s.name,
   fun v => (required (readName levels) v).map SymbolKind.ofName = some s.kind,
   fun v => optional (TypeInfo.decode levels) v = some s.containingType,
   fun v => optional readText v = some s.containingNamespace,
   fun v => withDefault [] (listOf levels Attribute.decode) v = some s.attributes]

/-- What a symbol table needs to be given. -/
def SymbolTable.clauses (levels : Nat) (t : SymbolTable) : List Clause :=
  [fun v => withDefault ∅ (IdMap.decode levels Symbol.decode) v = some t.symbols,
   fun v => withDefault ∅ (IdMap.decode levels TypeInfo.decode) v = some t.types,
   fun v => withDefault ∅ (IdMap.decode levels fun _ => Constant.decode) v = some t.constants,
   fun v => withDefault ∅ (IdMap.decode levels Symbol.decode) v = some t.declarations]

/-- What a snapshot needs to be given. -/
def Snapshot.clauses (levels : Nat) (s : Snapshot) : List Clause :=
  [fun v => required (CompilationUnit.decode levels) v = some s.unit,
   fun v => withDefault {} (SymbolTable.decode levels) v = some s.symbols]

/-- **The conditions of a record**, one for each field. -/
def RecordKind.clauses : (r : RecordKind) → Nat → r.Carrier → List Clause
  | .span, _, s => Span.clauses s
  | .node, levels, n => Node.clauses levels n
  | .unit, levels, u => CompilationUnit.clauses levels u
  | .type, levels, t => TypeInfo.clauses levels t
  | .attr, _, a => Attribute.clauses a
  | .symbol, levels, s => Symbol.clauses levels s
  | .table, levels, t => SymbolTable.clauses levels t
  | .snapshot, levels, s => Snapshot.clauses levels s

/-! ## Reading -/

/-- What is given meets the conditions, one by one. -/
def Meets (clauses : List Clause) (given : List (Option Value)) : Prop :=
  List.Forall₂ (fun P v => P v) clauses given

theorem meets_nil : Meets [] [] := .nil

theorem meets_cons {P : Clause} {clauses : List Clause} {v : Option Value} {given : List (Option Value)} :
    Meets (P :: clauses) (v :: given) ↔ P v ∧ Meets clauses given :=
  List.forall₂_cons

/-- A record that is put together from its fields is read field by field if the fields are. -/
theorem bind_fields_iff {α : Type} {names : List String} {v : Value} {clauses : List Clause} {x : α}
    {build : List (Option Value) → Option α}
    (h : ∀ given, given.length = names.length → (build given = some x ↔ Meets clauses given)) :
    (fields names v).bind build = some x ↔ ∃ given, fields names v = some given ∧ Meets clauses given := by
  rw [Option.bind_eq_some_iff]
  refine exists_congr fun given => and_congr_right fun hgiven => h given ?_
  rw [(fields_eq_some_iff.mp hgiven).2, List.length_mapIdx]

section

-- Each record below is opened into its fields, and the fields into what is given for them.
attribute [local simp] meets_nil meets_cons Option.bind_eq_some_iff

theorem Span.decode_iff {levels : Nat} {v : Value} {s : Span} :
    Span.decode (levels + 1) v = some s ↔
      ∃ given, fields Span.fieldNames v = some given ∧ Meets s.clauses given := by
  refine bind_fields_iff fun given hlength => ?_
  match given, hlength with
  | [_, _, _, _], _ =>
      cases s
      simp [Span.clauses]

theorem Node.decode_iff {levels : Nat} {v : Value} {n : Node} :
    Node.decode (levels + 1) v = some n ↔
      ∃ given, fields Node.fieldNames v = some given ∧ Meets (n.clauses levels) given := by
  rw [Node.decode_succ]
  refine bind_fields_iff fun given hlength => ?_
  match given, hlength with
  | [_, _, _, _, _, _, _, _, _], _ =>
      obtain ⟨info, children⟩ := n
      cases info
      simp [Node.clauses]

theorem CompilationUnit.decode_iff {levels : Nat} {v : Value} {u : CompilationUnit} :
    CompilationUnit.decode (levels + 1) v = some u ↔
      ∃ given, fields CompilationUnit.fieldNames v = some given ∧ Meets (u.clauses levels) given := by
  refine bind_fields_iff fun given hlength => ?_
  match given, hlength with
  | [_, _, _], _ =>
      cases u
      simp [CompilationUnit.clauses]

theorem TypeInfo.decode_iff {levels : Nat} {v : Value} {t : TypeInfo} :
    TypeInfo.decode (levels + 1) v = some t ↔
      ∃ given, fields TypeInfo.fieldNames v = some given ∧ Meets (t.clauses levels) given := by
  refine bind_fields_iff fun given hlength => ?_
  match given, hlength with
  | [_, _, kind, _, _], _ =>
      cases t
      -- the name of the kind is read before the fields behind it, and turned into the kind after them
      cases hkind : required (readName levels) kind with
      | none => simp [TypeInfo.clauses, hkind]
      | some name => simp [TypeInfo.clauses, hkind, and_assoc, and_left_comm, and_comm]

theorem Attribute.decode_iff {levels : Nat} {v : Value} {a : Attribute} :
    Attribute.decode (levels + 1) v = some a ↔
      ∃ given, fields Attribute.fieldNames v = some given ∧ Meets a.clauses given := by
  refine bind_fields_iff fun given hlength => ?_
  match given, hlength with
  | [_, _], _ =>
      cases a
      simp [Attribute.clauses]

theorem Symbol.decode_iff {levels : Nat} {v : Value} {s : Symbol} :
    Symbol.decode (levels + 1) v = some s ↔
      ∃ given, fields Symbol.fieldNames v = some given ∧ Meets (s.clauses levels) given := by
  refine bind_fields_iff fun given hlength => ?_
  match given, hlength with
  | [_, _, kind, _, _, _], _ =>
      cases s
      cases hkind : required (readName levels) kind with
      | none => simp [Symbol.clauses, hkind]
      | some name => simp [Symbol.clauses, hkind, and_assoc, and_left_comm, and_comm]

theorem SymbolTable.decode_iff {levels : Nat} {v : Value} {t : SymbolTable} :
    SymbolTable.decode (levels + 1) v = some t ↔
      ∃ given, fields SymbolTable.fieldNames v = some given ∧ Meets (t.clauses levels) given := by
  refine bind_fields_iff fun given hlength => ?_
  match given, hlength with
  | [_, _, _, _], _ =>
      cases t
      simp [SymbolTable.clauses]

theorem Snapshot.decode_iff {levels : Nat} {v : Value} {s : Snapshot} :
    Snapshot.decode (levels + 1) v = some s ↔
      ∃ given, fields Snapshot.fieldNames v = some given ∧ Meets (s.clauses levels) given := by
  refine bind_fields_iff fun given hlength => ?_
  match given, hlength with
  | [_, _], _ =>
      cases s
      simp [Snapshot.clauses]

end

namespace RecordKind

theorem length_clauses (r : RecordKind) (levels : Nat) (x : r.Carrier) :
    (r.clauses levels x).length = r.fields.length := by
  cases r <;> rfl

theorem decode_iff {r : RecordKind} {levels : Nat} {v : Value} {x : r.Carrier} :
    r.decode (levels + 1) v = some x ↔
      ∃ given, Json.fields r.fieldNames v = some given ∧ Meets (r.clauses levels x) given := by
  cases r with
  | span => exact @Span.decode_iff levels v x
  | node => exact Node.decode_iff
  | unit => exact CompilationUnit.decode_iff
  | type => exact TypeInfo.decode_iff
  | attr => exact @Attribute.decode_iff levels v x
  | symbol => exact Symbol.decode_iff
  | table => exact SymbolTable.decode_iff
  | snapshot => exact Snapshot.decode_iff

/-- **A record is read field by field**: it has the form of a record, and what it gives for each field
meets the condition of the field. -/
theorem decode_succ_iff {r : RecordKind} {levels : Nat} {v : Value} {x : r.Carrier} :
    r.decode (levels + 1) v = some x ↔ v.Lists r.fieldNames ∧
      ∀ (i : Nat) (f : RecordField) (P : Clause), r.fields[i]? = some f →
        (r.clauses levels x)[i]? = some P → P (v.given? i f.name) := by
  rw [decode_iff]
  simp only [Json.fields_eq_some_iff]
  have hmeets : Meets (r.clauses levels x) (r.fieldNames.mapIdx fun i name => v.given? i name) ↔
      ∀ (i : Nat) (f : RecordField) (P : Clause), r.fields[i]? = some f →
        (r.clauses levels x)[i]? = some P → P (v.given? i f.name) := by
    unfold Meets fieldNames
    have hlength : (r.clauses levels x).length =
        ((r.fields.map (·.name)).mapIdx fun i name => v.given? i name).length := by
      rw [List.length_mapIdx, List.length_map, length_clauses]
    rw [List.forall₂_iff_get, and_iff_right hlength]
    constructor
    · intro h i f P hf hP
      obtain ⟨hi, rfl⟩ := List.getElem?_eq_some_iff.mp hf
      obtain ⟨hi', rfl⟩ := List.getElem?_eq_some_iff.mp hP
      simpa using h i hi' (by simpa using hi)
    · intro h i hi hi'
      simp only [List.length_mapIdx, List.length_map] at hi'
      simpa using h i _ _ (List.getElem?_eq_getElem hi') (List.getElem?_eq_getElem hi)
  rw [← hmeets]
  constructor
  · rintro ⟨_, ⟨hlists, rfl⟩, h⟩
    exact ⟨hlists, h⟩
  · rintro ⟨hlists, h⟩
    exact ⟨_, ⟨hlists, rfl⟩, h⟩

end RecordKind

end Clauses

end LayerLint
