import LayerLint.Text.Search

/-!
# `Path` — paths compared by component

Paths are texts with `/` between components. Comparison looks at the components only: repeated and
trailing slashes and inner `.` components make no difference.

## Contents
- **Components.** `Component`, `Path.pieces`, `Path.components`.
- **Parts.** `Path.join`, `Path.parent?`, `Path.ancestors`.
- **Order.** `Component.compare`, `Path.compare`: root before a leading `.` before `..` before names,
  names by code point.
-/

namespace LayerLint

/-! ## Components -/

/-- A component of a path. -/
inductive Component where
  /-- The `/` an absolute path starts with. -/
  | root
  /-- A `.` at the start of a relative path. -/
  | current
  /-- A `..`. -/
  | parent
  | name (s : String)
  deriving Repr, DecidableEq

namespace Path

/-- The runs between slashes. -/
def pieces (path : String) : List String := (Text.pieces (· == '/') path.toList).map String.ofList

/-- The component a piece between slashes stands for; empty pieces and `.` stand for none. -/
def component? (piece : String) : Option Component :=
  if piece = "" ∨ piece = "." then none
  else if piece = ".." then some .parent
  else some (.name piece)

/-- The components of a path. -/
def components (path : String) : List Component :=
  let parts := pieces path
  match parts with
  | "" :: _ :: _ => .root :: parts.filterMap component?
  | "." :: _ => .current :: parts.filterMap component?
  | _ => parts.filterMap component?

/-! ## Parts -/

/-- The path starts at the root. -/
def isAbsolute (path : String) : Bool := Text.startsWith path "/"

/-- A path with a name appended. -/
def join (path name : String) : String :=
  if path = "" then name
  else if Text.endsWith path "/" then path ++ name
  else path ++ "/" ++ name

/-- The pieces up to the last one that stands for a component. -/
def dropVoid (parts : List String) : List String :=
  (parts.reverse.dropWhile fun p => p == "" || p == ".").reverse

/-- The path without its last component; a root and an empty path have none to drop. -/
def parent? (path : String) : Option String :=
  let parts := pieces path
  match parts.head?, dropVoid parts with
  | some ".", [] => some ""
  | _, [] => none
  | first, kept =>
      match first, dropVoid kept.dropLast with
      | some "", [] => some "/"
      | some ".", [] => some "."
      | _, rest => some ("/".intercalate rest)

/-- At most `n` of the paths that dropping one component after the other gives. -/
def parents : Nat → String → List String
  | 0, _ => []
  | n + 1, path =>
      match parent? path with
      | some parent => parent :: parents n parent
      | none => []

/-- The path itself and all its parents, which get shorter and shorter. -/
def ancestors (path : String) : List String := path :: parents path.length path

end Path

/-! ## Order -/

/-- The place of a component's form in the order. -/
def Component.rank : Component → Nat
  | root => 0
  | current => 1
  | parent => 2
  | name _ => 3

/-- The text of a name. -/
def Component.nameText : Component → String
  | name s => s
  | _ => ""

/-- Compares two components: first their forms, then their names. -/
def Component.compare (a b : Component) : Ordering :=
  (Ord.compare a.rank b.rank).then (Ord.compare a.nameText b.nameText)

/-- Compares two paths component by component. -/
def Path.compare (a b : String) : Ordering :=
  List.compareLex Component.compare (Path.components a) (Path.components b)

end LayerLint
