import LayerLint.IdMap
import LayerLint.Tree.Kind
import LayerLint.Tree.Span

/-!
# `Tree.Node` — syntax trees

A host lowers its own tree into nodes that carry only what the rules look at. A node is its payload
and its children in source order.

## Contents
- **Nodes.** `NodeInfo`, `Node`, and the accessors of both.
- **Building.** `Node.leaf` and the setters used by hosts.
- **Parts.** `Node.members`, `Node.body`, `Node.receiver`.
- **Walks.** `Node.preorder` by recursion on the tree; `Cursor`, the same walk step by step with a
  stack, and `Node.descendants`, what it visits below a node (`Node.descendants_eq`).
- **Units.** `CompilationUnit`: a source file with its tree.
-/

namespace LayerLint

/-! ## Nodes -/

/-- The payload of a node. -/
structure NodeInfo where
  /-- Key of the node's symbol facts; 0 if the host assigned none. -/
  id : Id := 0
  kind : Kind := .other
  span : Span := {}
  /-- Declared or referenced name. -/
  identifier : Option String := none
  /-- Where the name stands. -/
  identifierSpan : Option Span := none
  /-- Source text of directives, invocations, created types and literals. -/
  text : Option String := none
  modifiers : List Modifier := []
  parameters : List String := []
  deriving Repr, DecidableEq

/-- A node of a syntax tree. -/
inductive Node where
  | mk (info : NodeInfo) (children : List Node)

namespace Node

instance : Inhabited Node := ⟨mk {} []⟩

/-- The payload. -/
def info : Node → NodeInfo
  | mk i _ => i

/-- The children in source order. -/
def children : Node → List Node
  | mk _ cs => cs

@[simp] theorem info_mk (i : NodeInfo) (cs : List Node) : (mk i cs).info = i := rfl

@[simp] theorem children_mk (i : NodeInfo) (cs : List Node) : (mk i cs).children = cs := rfl

/-- Key of the node's symbol facts. -/
def id (n : Node) : Id := n.info.id

/-- What the node is. -/
def kind (n : Node) : Kind := n.info.kind

/-- Where the node stands. -/
def span (n : Node) : Span := n.info.span

/-- The identifier, or the empty text. -/
def name (n : Node) : String := n.info.identifier.getD ""

/-- The source text, or the empty text. -/
def text (n : Node) : String := n.info.text.getD ""

/-- Where the identifier stands; the whole node if that is not known. -/
def identifierSpan (n : Node) : Span := n.info.identifierSpan.getD n.span

/-- Names of the parameters. -/
def parameters (n : Node) : List String := n.info.parameters

/-- The node carries the modifier. -/
def hasModifier (n : Node) (m : Modifier) : Bool := n.info.modifiers.contains m

/-! ## Building -/

/-- A node of the given kind with nothing else set. -/
def leaf (kind : Kind) : Node := mk { kind } []

/-- Changes the payload. -/
def mapInfo (f : NodeInfo → NodeInfo) : Node → Node
  | mk i cs => mk (f i) cs

/-- Sets the id. -/
def withId (n : Node) (id : Id) : Node := n.mapInfo ({ · with id })

/-- Sets the span. -/
def withSpan (n : Node) (span : Span) : Node := n.mapInfo ({ · with span })

/-- Sets the identifier and where it stands. -/
def withIdentifier (n : Node) (name : String) (span : Span) : Node :=
  n.mapInfo ({ · with identifier := some name, identifierSpan := some span })

/-- Sets the identifier and leaves its place as it is. -/
def named (n : Node) (name : String) : Node := n.mapInfo ({ · with identifier := some name })

/-- Sets the source text. -/
def withText (n : Node) (text : String) : Node := n.mapInfo ({ · with text := some text })

/-- Appends a modifier. -/
def withModifier (n : Node) (m : Modifier) : Node :=
  n.mapInfo fun i => { i with modifiers := i.modifiers ++ [m] }

/-- Appends a parameter. -/
def withParameter (n : Node) (p : String) : Node :=
  n.mapInfo fun i => { i with parameters := i.parameters ++ [p] }

/-- Appends children. -/
def withChildren (n : Node) (more : List Node) : Node := mk n.info (n.children ++ more)

/-! ## Parts -/

/-- Direct members of a type declaration. -/
def members (n : Node) : List Node := n.children

/-- The first block among the children; abstract and expression-bodied members have none. -/
def body (n : Node) : Option Node := n.children.find? (·.kind == .block)

/-- The expression a member is accessed on. -/
def receiver (n : Node) : Option Node :=
  if n.kind = .memberAccess then n.children.head? else none

/-! ## Walks -/

mutual

/-- The node and everything below it: a node before its children, children in order. -/
def preorder : Node → List Node
  | mk i cs => mk i cs :: preorderAll cs

/-- The nodes of a forest in pre-order. -/
def preorderAll : List Node → List Node
  | [] => []
  | n :: ns => n.preorder ++ preorderAll ns

end

mutual

/-- The number of nodes of a tree. -/
def size : Node → Nat
  | mk _ cs => sizeAll cs + 1

/-- The number of nodes of a forest. -/
def sizeAll : List Node → Nat
  | [] => 0
  | n :: ns => n.size + sizeAll ns

end

theorem preorder_eq (n : Node) : n.preorder = n :: preorderAll n.children := by
  cases n
  simp [preorder]

theorem preorderAll_append (a b : List Node) :
    preorderAll (a ++ b) = preorderAll a ++ preorderAll b := by
  induction a with
  | nil => simp [preorderAll]
  | cons n a ih => simp [preorderAll, ih]

mutual

theorem length_preorder : ∀ n : Node, n.preorder.length = n.size
  | mk _ cs => by rw [preorder, size, List.length_cons, length_preorderAll cs]

theorem length_preorderAll : ∀ ns : List Node, (preorderAll ns).length = sizeAll ns
  | [] => rfl
  | n :: ns => by
      rw [preorderAll, sizeAll, List.length_append, length_preorder n, length_preorderAll ns]

end

end Node

/-- A walk over a forest that can be left off after each node. The trees still to be visited are on a
stack, whose top is at the end. -/
structure Cursor where
  stack : Array Node

namespace Cursor

/-- Takes the node on top of the stack, which is the next one of the walk, and puts its children on the
stack, so that the first of them is on top. There is none if the stack is empty. -/
def next? (c : Cursor) : Option (Node × Cursor) :=
  c.stack.back?.map fun n => (n, ⟨c.stack.pop ++ n.children.reverse⟩)

/-- The nodes of at most so many steps. -/
def take : Nat → Cursor → List Node
  | 0, _ => []
  | k + 1, c =>
      match c.next? with
      | none => []
      | some (n, rest) => n :: take k rest

/-- What is still to be visited, in order: the trees from the top of the stack down. -/
def remaining (c : Cursor) : List Node := Node.preorderAll c.stack.toList.reverse

theorem remaining_of_next?_none {c : Cursor} (h : c.next? = none) : c.remaining = [] := by
  have hstack : c.stack = #[] := by simpa [next?] using h
  rw [remaining, hstack]
  rfl

/-- **A step visits the first of the nodes that remain** and leaves the others, in the same order. -/
theorem remaining_of_next? {c rest : Cursor} {n : Node} (h : c.next? = some (n, rest)) :
    c.remaining = n :: rest.remaining := by
  obtain ⟨top, htop, heq⟩ := Option.map_eq_some_iff.mp h
  obtain ⟨rfl, rfl⟩ := Prod.mk.inj heq
  obtain ⟨below, hstack⟩ := Array.back?_eq_some_iff.mp htop
  -- The stack is read from its end, so the children, put on in reverse, come next and in order.
  simp [remaining, hstack, Node.preorderAll_append, Node.preorderAll, Node.preorder_eq]

/-- Steps visit the nodes that remain, in order. -/
theorem take_eq (k : Nat) (c : Cursor) : c.take k = c.remaining.take k := by
  induction k generalizing c with
  | zero => rfl
  | succ k ih =>
      cases h : c.next? with
      | none => simp only [take, h, remaining_of_next?_none h, List.take_nil]
      | some p => simp only [take, h, remaining_of_next? h, ih, List.take_succ_cons]

end Cursor

namespace Node

/-- The walk over everything below a node. -/
def cursor (n : Node) : Cursor := ⟨n.children.reverse.toArray⟩

/-- Everything below a node, excluding the node itself, in the order of a pre-order walk. -/
def descendants (n : Node) : List Node := n.cursor.take (sizeAll n.children)

theorem remaining_cursor (n : Node) : n.cursor.remaining = preorderAll n.children := by
  simp [Cursor.remaining, cursor]

/-- The walk visits exactly the recursive pre-order of the children. -/
theorem descendants_eq (n : Node) : n.descendants = preorderAll n.children := by
  rw [descendants, Cursor.take_eq, remaining_cursor, ← length_preorderAll, List.take_length]

end Node

/-! ## Units -/

/-- A source file handed in by a host. -/
structure CompilationUnit where
  /-- Path as the host reports it. -/
  path : String
  /-- Full source text. -/
  text : String := ""
  root : Node
  deriving Inhabited

/-- The using directives anywhere below the root. -/
def CompilationUnit.usingDirectives (u : CompilationUnit) : List Node :=
  u.root.descendants.filter (·.kind == .usingDirective)

end LayerLint
