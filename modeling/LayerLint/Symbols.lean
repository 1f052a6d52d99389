import LayerLint.Tree.Node

/-!
# `Symbols` — what the host resolved

Facts about nodes come from a host's symbol resolution. Every question may go unanswered; rules treat
a missing answer as "not applicable here".

## Contents
- **Facts.** `TypeInfo`, `Attribute`, `Symbol`, `Constant` and their kinds.
- **Models.** `Model`: four partial functions on nodes.
- **Tables.** `SymbolTable`: facts listed by node id, and the model it gives.
-/

namespace LayerLint

/-! ## Facts -/

/-- What a symbol names. -/
inductive SymbolKind where
  | namedType
  | property
  | field
  | method
  | localVariable
  | parameter
  | namespaceName
  | other
  deriving Repr, DecidableEq

namespace SymbolKind

/-- Every kind of symbol. -/
def all : List SymbolKind :=
  [namedType, property, field, method, localVariable, parameter, namespaceName, other]

/-- The name of a kind in a snapshot. -/
def name : SymbolKind → String
  | namedType => "named_type"
  | property => "property"
  | field => "field"
  | method => "method"
  | localVariable => "local"
  | parameter => "parameter"
  | namespaceName => "namespace"
  | other => "other"

/-- The kind with the given name; an unknown name is `other`. -/
def ofName (s : String) : SymbolKind := (all.find? (·.name == s)).getD other

theorem ofName_name (k : SymbolKind) : ofName k.name = k := by cases k <;> decide

end SymbolKind

/-- What a type is. -/
inductive TypeKind where
  | classType
  | interfaceType
  | structType
  | enumType
  | delegateType
  | other
  deriving Repr, DecidableEq

namespace TypeKind

/-- Every kind of type. -/
def all : List TypeKind := [classType, interfaceType, structType, enumType, delegateType, other]

/-- The name of a kind in a snapshot. -/
def name : TypeKind → String
  | classType => "class"
  | interfaceType => "interface"
  | structType => "struct"
  | enumType => "enum"
  | delegateType => "delegate"
  | other => "other"

/-- The kind with the given name; an unknown name is `other`. -/
def ofName (s : String) : TypeKind := (all.find? (·.name == s)).getD other

theorem ofName_name (k : TypeKind) : ofName k.name = k := by cases k <;> decide

end TypeKind

/-- A resolved type. -/
structure TypeInfo where
  id : Id
  name : String
  kind : TypeKind
  /-- Namespace the type is declared in. -/
  containingNamespace : Option String := none
  /-- Every interface the type implements, directly or not. -/
  interfaces : List Id := []
  deriving Repr, DecidableEq

/-- The type implements the interface with the given id. -/
def TypeInfo.implements (t : TypeInfo) (interface : Id) : Bool := t.interfaces.contains interface

/-- An attribute on a declaration. -/
structure Attribute where
  className : String
  /-- Namespace the attribute class is declared in. -/
  containingNamespace : Option String := none
  deriving Repr, DecidableEq

/-- A resolved symbol. Two references to one entity carry the same id, whatever name they use. -/
structure Symbol where
  id : Id
  name : String
  kind : SymbolKind
  /-- Type that declares the symbol. -/
  containingType : Option TypeInfo := none
  containingNamespace : Option String := none
  attributes : List Attribute := []
  deriving Repr, DecidableEq

/-- A compile-time constant; a float is given by its IEEE 754 bits. -/
inductive Constant where
  | bool (b : Bool)
  | int (i : SignedWord)
  | float (bits : UInt64)
  | text (s : String)
  deriving Repr, DecidableEq

/-- The text of a text constant. -/
def Constant.text? : Constant → Option String
  | text s => some s
  | _ => none

/-! ## Models -/

/-- A host's symbol resolution. -/
structure Model where
  /-- Symbol an expression refers to. -/
  symbol : Node → Option Symbol
  /-- Static type of an expression or declaration. -/
  type : Node → Option TypeInfo
  /-- Value of a literal. -/
  constant : Node → Option Constant
  /-- Symbol a declaration declares. -/
  declared : Node → Option Symbol

/-! ## Tables -/

/-- Facts resolved ahead of time, listed by node id. -/
structure SymbolTable where
  symbols : IdMap Symbol := ∅
  types : IdMap TypeInfo := ∅
  constants : IdMap Constant := ∅
  declarations : IdMap Symbol := ∅
  deriving Inhabited

/-- The table answers by the id of the node alone. -/
def SymbolTable.model (t : SymbolTable) : Model where
  symbol n := t.symbols.get? n.id
  type n := t.types.get? n.id
  constant n := t.constants.get? n.id
  declared n := t.declarations.get? n.id

end LayerLint
