/-!
# `Tree.Kind` — what a node is

The kinds of nodes and modifiers the rules look at. A host may send kinds this list does not know;
they are all `other`.

## Contents
- **Kinds.** `Kind`, its wire names `Kind.name` / `Kind.ofName`, and the classes
  `Kind.isControlFlow` and `Kind.isMethodLike`.
- **Modifiers.** `Modifier` with its wire names; an unknown modifier has no value.
-/

namespace LayerLint

/-! ## Kinds -/

/-- Kinds of syntax nodes. -/
inductive Kind where
  | compilationUnit
  | namespaceBlock
  | usingDirective
  | classDecl
  | interfaceDecl
  | methodDecl
  | constructorDecl
  | operatorDecl
  | propertyDecl
  | fieldDecl
  | block
  | ifStatement
  | switchStatement
  | forStatement
  | forEachStatement
  | whileStatement
  | doStatement
  | catchClause
  | conditional
  | invocation
  | memberAccess
  | objectCreation
  | literal
  | identifierName
  | other
  deriving Repr, DecidableEq, Inhabited

namespace Kind

/-- Every kind. -/
def all : List Kind :=
  [compilationUnit, namespaceBlock, usingDirective, classDecl, interfaceDecl, methodDecl,
   constructorDecl, operatorDecl, propertyDecl, fieldDecl, block, ifStatement, switchStatement,
   forStatement, forEachStatement, whileStatement, doStatement, catchClause, conditional, invocation,
   memberAccess, objectCreation, literal, identifierName, other]

/-- The name of a kind in a snapshot. -/
def name : Kind → String
  | compilationUnit => "compilation_unit"
  | namespaceBlock => "namespace"
  | usingDirective => "using_directive"
  | classDecl => "class_declaration"
  | interfaceDecl => "interface_declaration"
  | methodDecl => "method_declaration"
  | constructorDecl => "constructor_declaration"
  | operatorDecl => "operator_declaration"
  | propertyDecl => "property_declaration"
  | fieldDecl => "field_declaration"
  | block => "block"
  | ifStatement => "if_statement"
  | switchStatement => "switch_statement"
  | forStatement => "for_statement"
  | forEachStatement => "for_each_statement"
  | whileStatement => "while_statement"
  | doStatement => "do_statement"
  | catchClause => "catch_clause"
  | conditional => "conditional_expression"
  | invocation => "invocation_expression"
  | memberAccess => "member_access_expression"
  | objectCreation => "object_creation_expression"
  | literal => "literal_expression"
  | identifierName => "identifier_name"
  | other => "other"

/-- The kind with the given name; an unknown name is `other`. -/
def ofName (s : String) : Kind := (all.find? (·.name == s)).getD other

/-- Reading a kind's name gives the kind back. -/
theorem ofName_name (k : Kind) : ofName k.name = k := by cases k <;> decide

/-- Constructs that branch or loop. -/
def isControlFlow : Kind → Bool
  | ifStatement | switchStatement | forStatement | forEachStatement | whileStatement | doStatement
  | catchClause | conditional => true
  | _ => false

/-- Members that may have a body. -/
def isMethodLike : Kind → Bool
  | methodDecl | constructorDecl | operatorDecl => true
  | _ => false

end Kind

/-! ## Modifiers -/

/-- Modifiers of a declaration. -/
inductive Modifier where
  | isPublic
  | isPrivate
  | isProtected
  | isInternal
  | isStatic
  | isOverride
  | isVirtual
  | isAbstract
  | isPartial
  | isAsync
  | isSealed
  deriving Repr, DecidableEq

namespace Modifier

/-- Every modifier. -/
def all : List Modifier :=
  [isPublic, isPrivate, isProtected, isInternal, isStatic, isOverride, isVirtual, isAbstract,
   isPartial, isAsync, isSealed]

/-- The name of a modifier in a snapshot. -/
def name : Modifier → String
  | isPublic => "public"
  | isPrivate => "private"
  | isProtected => "protected"
  | isInternal => "internal"
  | isStatic => "static"
  | isOverride => "override"
  | isVirtual => "virtual"
  | isAbstract => "abstract"
  | isPartial => "partial"
  | isAsync => "async"
  | isSealed => "sealed"

/-- The modifier with the given name. -/
def ofName? (s : String) : Option Modifier := all.find? (·.name == s)

/-- Reading a modifier's name gives the modifier back. -/
theorem ofName?_name (m : Modifier) : ofName? m.name = some m := by cases m <;> decide

end Modifier

end LayerLint
