import LayerLint.Json.Record
import LayerLint.Json.Shortest
import LayerLint.Symbols

/-!
# `Snapshot` — units with their facts, as JSON

A snapshot is a compilation unit together with its symbol table. Hosts write one JSON text per unit.
Reading a text that a snapshot was written to gives the snapshot back, floats apart.

## Contents
- **Reading.** A decoder per type, from `Span.decode` up to `Snapshot.decode`, and `Snapshot.parse`
  for texts, which may nest at most `Snapshot.maxLevels` deep where they are looked into.
- **Writing.** An encoder per type; absent options and empty lists are left out.
-/

namespace LayerLint

open Json (Value)

/-- A compilation unit with the facts resolved for it. -/
structure Snapshot where
  unit : CompilationUnit
  symbols : SymbolTable := {}
  deriving Inhabited

/-! ## Reading -/

/-- The fields of a span, in order. -/
def Span.fieldNames : List String := ["start_line", "start_column", "end_line", "end_column"]

/-- Reads a span. -/
def Span.decode (levels : Nat) (v : Value) : Option Span := do
  if levels = 0 then none
  match ← Json.fields Span.fieldNames v with
  | [startLine, startColumn, endLine, endColumn] =>
      return {
        startLine := ← Json.required Json.readWord startLine
        startColumn := ← Json.required Json.readWord startColumn
        endLine := ← Json.required Json.readWord endLine
        endColumn := ← Json.required Json.readWord endColumn }
  | _ => none

/-- Reads a kind. -/
def Kind.decode (levels : Nat) (v : Value) : Option Kind := (Json.readName levels v).map Kind.ofName

/-- Reads a modifier. -/
def Modifier.decode (levels : Nat) (v : Value) : Option Modifier :=
  (Json.readName levels v).bind Modifier.ofName?

/-- The fields of a node, in order. -/
def Node.fieldNames : List String :=
  ["id", "kind", "span", "identifier", "identifier_span", "text", "modifiers", "parameters",
   "children"]

/-- Reads a node whose children `readChildren` reads; `levels` are left inside it. -/
def Node.decodeWith (levels : Nat) (readChildren : Value → Option (List Node)) (v : Value) :
    Option Node := do
  match ← Json.fields Node.fieldNames v with
  | [id, kind, span, identifier, identifierSpan, text, modifiers, parameters, children] =>
      let info : NodeInfo := {
        id := ← Json.withDefault 0 Json.readId id
        kind := ← Json.required (Kind.decode levels) kind
        span := ← Json.withDefault {} (Span.decode levels) span
        identifier := ← Json.optional Json.readText identifier
        identifierSpan := ← Json.optional (Span.decode levels) identifierSpan
        text := ← Json.optional Json.readText text
        modifiers := ← Json.withDefault [] (Json.listOf levels Modifier.decode) modifiers
        parameters := ← Json.withDefault [] (Json.listOf levels fun _ => Json.readText) parameters }
      return .mk info (← Json.withDefault [] readChildren children)
  | _ => none

/-- Reads a node. A child is two levels further in: it stands in the list of children. -/
def Node.decode : Nat → Value → Option Node
  | 0, _ => none
  | 1, v => Node.decodeWith 0 (fun _ => none) v
  | inner + 2, v =>
      Node.decodeWith (inner + 1)
        (fun
          | .array items => items.mapM (Node.decode inner)
          | _ => none)
        v

theorem Node.decode_succ (levels : Nat) (v : Value) :
    Node.decode (levels + 1) v = Node.decodeWith levels (Json.listOf levels Node.decode) v := by
  cases levels with
  | zero =>
      rw [Node.decode]
      congr 1
      funext v
      cases v <;> rfl
  | succ inner =>
      rw [Node.decode]
      congr 1

/-- The fields of a unit, in order. -/
def CompilationUnit.fieldNames : List String := ["path", "text", "root"]

/-- Reads a unit. -/
def CompilationUnit.decode : Nat → Value → Option CompilationUnit
  | 0, _ => none
  | levels + 1, v => do
      match ← Json.fields CompilationUnit.fieldNames v with
      | [path, text, root] =>
          return {
            path := ← Json.required Json.readText path
            text := ← Json.withDefault "" Json.readText text
            root := ← Json.required (Node.decode levels) root }
      | _ => none

/-- The fields of a type, in order. -/
def TypeInfo.fieldNames : List String := ["id", "name", "kind", "namespace", "all_interfaces"]

/-- Reads a type. -/
def TypeInfo.decode : Nat → Value → Option TypeInfo
  | 0, _ => none
  | levels + 1, v => do
      match ← Json.fields TypeInfo.fieldNames v with
      | [id, name, kind, containingNamespace, interfaces] =>
          return {
            id := ← Json.required Json.readId id
            name := ← Json.required Json.readText name
            kind := TypeKind.ofName (← Json.required (Json.readName levels) kind)
            containingNamespace := ← Json.optional Json.readText containingNamespace
            interfaces := ← Json.withDefault [] (Json.listOf levels fun _ => Json.readId) interfaces }
      | _ => none

/-- The fields of an attribute, in order. -/
def Attribute.fieldNames : List String := ["class_name", "namespace"]

/-- Reads an attribute. -/
def Attribute.decode : Nat → Value → Option Attribute
  | 0, _ => none
  | _ + 1, v => do
      match ← Json.fields Attribute.fieldNames v with
      | [className, containingNamespace] =>
          return {
            className := ← Json.required Json.readText className
            containingNamespace := ← Json.optional Json.readText containingNamespace }
      | _ => none

/-- The fields of a symbol, in order. -/
def Symbol.fieldNames : List String :=
  ["id", "name", "kind", "containing_type", "containing_namespace", "attributes"]

/-- Reads a symbol. -/
def Symbol.decode : Nat → Value → Option Symbol
  | 0, _ => none
  | levels + 1, v => do
      match ← Json.fields Symbol.fieldNames v with
      | [id, name, kind, containingType, containingNamespace, attributes] =>
          return {
            id := ← Json.required Json.readId id
            name := ← Json.required Json.readText name
            kind := SymbolKind.ofName (← Json.required (Json.readName levels) kind)
            containingType := ← Json.optional (TypeInfo.decode levels) containingType
            containingNamespace := ← Json.optional Json.readText containingNamespace
            attributes := ← Json.withDefault [] (Json.listOf levels Attribute.decode) attributes }
      | _ => none

/-- The integer a number stands for, if it is written without fraction and exponent and fits a signed
64-bit word; `-0` is a float. -/
def Constant.readInt (n : Json.Number) : Option SignedWord :=
  let v := Json.Number.digitsValue n.whole
  if !n.isWhole || (n.negative && v == 0) then none
  else SignedWord.ofInt? (if n.negative then -(v : Int) else v)

/-- Reads a constant: a number is an integer if it can be, else a float. -/
def Constant.decode : Value → Option Constant
  | .bool b => some (.bool b)
  | .number n =>
      match Constant.readInt n with
      | some i => some (.int i)
      | none => n.float?.map .float
  | .string raw => (Json.Quoted.unescape raw).map .text
  | _ => none

/-- Reads a map from node ids; the last value of an id counts. -/
def IdMap.decode {α : Type} (levels : Nat) (item : Nat → Value → Option α) (v : Value) :
    Option (IdMap α) :=
  (Json.idMembers levels item v).map IdMap.ofList

/-- The fields of a symbol table, in order. -/
def SymbolTable.fieldNames : List String := ["symbols", "types", "constants", "declarations"]

/-- Reads a symbol table. -/
def SymbolTable.decode : Nat → Value → Option SymbolTable
  | 0, _ => none
  | levels + 1, v => do
      match ← Json.fields SymbolTable.fieldNames v with
      | [symbols, types, constants, declarations] =>
          return {
            symbols := ← Json.withDefault ∅ (IdMap.decode levels Symbol.decode) symbols
            types := ← Json.withDefault ∅ (IdMap.decode levels TypeInfo.decode) types
            constants := ← Json.withDefault ∅ (IdMap.decode levels fun _ => Constant.decode) constants
            declarations := ← Json.withDefault ∅ (IdMap.decode levels Symbol.decode) declarations }
      | _ => none

/-- The fields of a snapshot, in order. -/
def Snapshot.fieldNames : List String := ["unit", "symbols"]

/-- Reads a snapshot. -/
def Snapshot.decode : Nat → Value → Option Snapshot
  | 0, _ => none
  | levels + 1, v => do
      match ← Json.fields Snapshot.fieldNames v with
      | [unit, symbols] =>
          return {
            unit := ← Json.required (CompilationUnit.decode levels) unit
            symbols := ← Json.withDefault {} (SymbolTable.decode levels) symbols }
      | _ => none

/-- How many objects and arrays may be open at once in the typed part of a text. -/
def Snapshot.maxLevels : Nat := 127

/-- Reads a snapshot text. -/
def Snapshot.parse (s : String) : Option Snapshot :=
  (Json.parse s).bind (Snapshot.decode Snapshot.maxLevels)

/-! ## Writing -/

/-- A member that is written only if there is a value. -/
def optionalMember {α : Type} (name : String) (encode : α → Value) (a : Option α) :
    List (String × Value) :=
  match a with
  | some a => [(name, encode a)]
  | none => []

/-- A list member that is written only if it is not empty. -/
def listMember {α : Type} (name : String) (encode : α → Value) (l : List α) :
    List (String × Value) :=
  if l.isEmpty then [] else [(name, .array (l.map encode))]

/-- Writes a span. -/
def Span.encode (s : Span) : Value :=
  .record [("start_line", .nat s.startLine.toNat), ("start_column", .nat s.startColumn.toNat),
    ("end_line", .nat s.endLine.toNat), ("end_column", .nat s.endColumn.toNat)]

/-- The members of a node before its children. -/
def NodeInfo.encodeMembers (i : NodeInfo) : List (String × Value) :=
  [("id", .nat i.id.toNat), ("kind", .text i.kind.name), ("span", i.span.encode)] ++
    optionalMember "identifier" .text i.identifier ++
    optionalMember "identifier_span" Span.encode i.identifierSpan ++
    optionalMember "text" .text i.text ++
    listMember "modifiers" (fun m => .text m.name) i.modifiers ++
    listMember "parameters" .text i.parameters

mutual

/-- Writes a node. -/
def Node.encode : Node → Value
  | .mk info [] => .record info.encodeMembers
  | .mk info (c :: cs) =>
      .record (info.encodeMembers ++ [("children", .array (Node.encodeAll (c :: cs)))])

/-- Writes a list of nodes. -/
def Node.encodeAll : List Node → List Value
  | [] => []
  | n :: ns => n.encode :: Node.encodeAll ns

end

/-- Writes a unit. -/
def CompilationUnit.encode (u : CompilationUnit) : Value :=
  .record [("path", .text u.path), ("text", .text u.text), ("root", u.root.encode)]

/-- Writes a type. -/
def TypeInfo.encode (t : TypeInfo) : Value :=
  .record ([("id", .nat t.id.toNat), ("name", .text t.name), ("kind", .text t.kind.name)] ++
    optionalMember "namespace" .text t.containingNamespace ++
    listMember "all_interfaces" (fun i => .nat i.toNat) t.interfaces)

/-- Writes an attribute. -/
def Attribute.encode (a : Attribute) : Value :=
  .record ([("class_name", .text a.className)] ++
    optionalMember "namespace" .text a.containingNamespace)

/-- Writes a symbol. -/
def Symbol.encode (s : Symbol) : Value :=
  .record ([("id", .nat s.id.toNat), ("name", .text s.name), ("kind", .text s.kind.name)] ++
    optionalMember "containing_type" TypeInfo.encode s.containingType ++
    optionalMember "containing_namespace" .text s.containingNamespace ++
    listMember "attributes" Attribute.encode s.attributes)

/-- Writes a constant; a float that is not finite has no number and is written as null. -/
def Constant.encode : Constant → Value
  | .bool b => .bool b
  | .int i => .int i
  | .float bits =>
      match Json.Number.ofFloat? bits with
      | some n => .number n
      | none => .null
  | .text s => .text s

/-- Writes a map with its ids as member names. -/
def IdMap.encode {α : Type} (item : α → Value) (m : IdMap α) : Value :=
  .object (m.entries.map fun (k, a) => (Nat.toDigits 10 k.toNat, item a))

/-- Writes a symbol table. -/
def SymbolTable.encode (t : SymbolTable) : Value :=
  .record [("symbols", t.symbols.encode Symbol.encode), ("types", t.types.encode TypeInfo.encode),
    ("constants", t.constants.encode Constant.encode),
    ("declarations", t.declarations.encode Symbol.encode)]

/-- Writes a snapshot. -/
def Snapshot.encode (s : Snapshot) : Value :=
  .record [("unit", s.unit.encode), ("symbols", s.symbols.encode)]

/-- The text of a snapshot. -/
def Snapshot.render (s : Snapshot) : String := s.encode.compact

end LayerLint
