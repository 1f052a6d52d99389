import LayerLint.Toml.Quoted
import LayerLint.Toml.Scalar

/-!
# `Toml.Document` — TOML texts

A text is a list of statements: entries and the headers that say which table the entries after them
belong to. Reading goes in two steps, from the text to statements and from statements to one table.

## Contents
- **Values and statements.** `Value`, `Statement`.
- **Reading statements.** `key`, `value`, `statements`. Keys, arrays and inline tables nest less than
  `maxDepth` deep.
- **Building tables.** `Item`, `Entries`, `Entries.update`: how a table came about decides what may
  still be added to it.
- **Texts.** `parse`.
-/

namespace LayerLint.Toml

/-! ## Values and statements -/

/-- A TOML value; floats and dates are only told apart from the others. -/
inductive Value where
  | string (s : String)
  | integer (i : Int)
  | boolean (b : Bool)
  | float
  | dateTime
  | array (items : List Value)
  | table (entries : List (String × Value))
  deriving Repr, Inhabited

/-- How a table came about. -/
inductive Form where
  /-- By a header of its own; the top table counts as such. -/
  | header
  /-- By a header of a table below it. -/
  | implied
  /-- By a dotted key. -/
  | dotted
  deriving Repr, DecidableEq

/-- What a name stands for while tables are built. -/
inductive Item where
  /-- A value, to which nothing can be added. -/
  | value (v : Value)
  | table (form : Form) (entries : List (String × Item))
  /-- An array of tables written with headers, the last one first. -/
  | tables (latest : List (List (String × Item)))

/-- The entries of a table under construction. -/
abbrev Entries := List (String × Item)

/-! ## Building tables -/

namespace Entries

/-- Sets the item of a name, at its place if it has one, else at the end. -/
def set (es : Entries) (k : String) (item : Item) : Entries :=
  match es with
  | [] => [(k, item)]
  | (j, old) :: rest => if j = k then (j, item) :: rest else (j, old) :: set rest k item

/-- Changes the table at `path` with `f`, which is also told the table's form. A name on the way that
has no item gets a table, which is dotted if the path is that of a dotted key. A dotted key may not
enter a table that has a header; of an array of tables the last one is meant. -/
def update (isDotted : Bool) (f : Form → Entries → Option Entries) :
    List String → Form → Entries → Option Entries
  | [], form, es => f form es
  | k :: path, _, es =>
      match es.lookup k with
      | none => do
          let form := if isDotted then Form.dotted else .implied
          return es.set k (.table form (← update isDotted f path form []))
      | some (.table form inner) =>
          if isDotted && form == .header then none
          else do return es.set k (.table form (← update isDotted f path form inner))
      | some (.tables (last :: before)) => do
          return es.set k (.tables ((← update isDotted f path .header last) :: before))
      | some (.tables []) => none
      | some (.value _) => none

/-- Adds an entry under a dotted key to a table. The table that the key leads to must itself have come
about by dotted keys, and the last name must be new. -/
def addEntry (path : List String) (k : String) (v : Value) (form : Form) (es : Entries) :
    Option Entries :=
  update true
    (fun form es =>
      if (form == .dotted) == path.isEmpty then none
      else if (es.lookup k).isSome then none
      else some (es.set k (.value v)))
    path form es

/-- Opens the table of a header: a new one, or one that headers below it implied. -/
def openTable (path : List String) (k : String) (es : Entries) : Option Entries :=
  update false
    (fun _ es =>
      match es.lookup k with
      | none => some (es.set k (.table .header []))
      | some (.table .implied inner) => some (es.set k (.table .header inner))
      | some _ => none)
    path .header es

/-- Opens the next table of an array of tables. -/
def openNextTable (path : List String) (k : String) (es : Entries) : Option Entries :=
  update false
    (fun _ es =>
      match es.lookup k with
      | none => some (es.set k (.tables [[]]))
      | some (.tables ts) => some (es.set k (.tables ([] :: ts)))
      | some _ => none)
    path .header es

end Entries

mutual

/-- The value of an item. -/
def Item.toValue : Item → Value
  | .value v => v
  | .table _ es => .table (entryValues es)
  | .tables latest => .array (tableValues latest).reverse

/-- The values of entries. -/
def entryValues : List (String × Item) → List (String × Value)
  | [] => []
  | (k, item) :: rest => (k, item.toValue) :: entryValues rest

/-- The values of the tables of an array. -/
def tableValues : List (List (String × Item)) → List Value
  | [] => []
  | es :: rest => .table (entryValues es) :: tableValues rest

end

/-- The inline table with the given entries, each under a dotted key. -/
def inlineTable (pairs : List (List String × Value)) : Option Value := do
  let es ← pairs.foldlM
    (fun es (key, v) =>
      match key.getLast? with
      | some k => Entries.addEntry key.dropLast k v .header es
      | none => none)
    ([] : Entries)
  return .table (entryValues es)

/-! ## Reading statements -/

/-- Names in a key, and arrays and inline tables around each other, are fewer than this. -/
def maxDepth : Nat := 80

/-- Characters of a name without quotes. -/
def isBare (c : Char) : Bool := c.isAlphanum || c == '_' || c == '-'

/-- Reads a name. -/
def name : List Char → Option (String × List Char)
  | '"' :: rest => Quoted.basic [] rest
  | '\x27' :: rest => Quoted.literal rest
  | s =>
      match s.takeWhile isBare with
      | [] => none
      | cs => some (String.ofList cs, s.dropWhile isBare)

/-- Reads names with dots between them, blanks around each of them aside. -/
def names : Nat → List Char → Option (List String × List Char)
  | 0, _ => none
  | fuel + 1, s => do
      let (k, s) ← name (s.dropWhile isSpace)
      match s.dropWhile isSpace with
      | '.' :: rest =>
          let (ks, rest) ← names fuel rest
          return (k :: ks, rest)
      | rest => return ([k], rest)

/-- Reads a key. -/
def key (s : List Char) : Option (List String × List Char) := names (maxDepth - 1) s

/-- Drops a comment, up to the end of its line. -/
def dropComment : List Char → List Char
  | '#' :: rest => rest.dropWhile isPlain
  | s => s

/-- Drops blanks, line breaks and comments. -/
def dropTrivia : Nat → List Char → List Char
  | 0, s => s
  | fuel + 1, s =>
      match s.dropWhile isSpace with
      | '#' :: rest => dropTrivia fuel (rest.dropWhile isPlain)
      | s =>
          match lineBreak? s with
          | some rest => dropTrivia fuel rest
          | none => s

/-- Drops everything insignificant inside an array. -/
def skipTrivia (s : List Char) : List Char := dropTrivia s.length s

/-- Reads a scalar that is written without quotes. -/
def plainScalar (s : List Char) : Option (Value × List Char) :=
  match s with
  | 't' :: 'r' :: 'u' :: 'e' :: rest => some (.boolean true, rest)
  | 'f' :: 'a' :: 'l' :: 's' :: 'e' :: rest => some (.boolean false, rest)
  | s =>
      match dateTime s with
      | some rest => some (.dateTime, rest)
      | none =>
          match float s with
          | some rest => some (.float, rest)
          | none => (integer s).map fun (i, rest) => (.integer i, rest)

mutual

/-- Reads a value; `depth` containers may still be opened. -/
def value : Nat → Nat → List Char → Option (Value × List Char)
  | 0, _, _ => none
  | _ + 1, _, '"' :: '"' :: '"' :: rest =>
      (Quoted.multiBasic rest).map fun (s, rest) => (.string s, rest)
  | _ + 1, _, '"' :: rest => (Quoted.basic [] rest).map fun (s, rest) => (.string s, rest)
  | _ + 1, _, '\x27' :: '\x27' :: '\x27' :: rest =>
      (Quoted.multiLiteral rest).map fun (s, rest) => (.string s, rest)
  | _ + 1, _, '\x27' :: rest => (Quoted.literal rest).map fun (s, rest) => (.string s, rest)
  | _ + 1, 0, '[' :: _ => none
  | fuel + 1, depth + 1, '[' :: rest =>
      match skipTrivia rest with
      | ']' :: rest => some (.array [], rest)
      | s => (items fuel depth s).map fun (vs, rest) => (.array vs, rest)
  | _ + 1, 0, '\x7b' :: _ => none
  | fuel + 1, depth + 1, '\x7b' :: rest =>
      match rest.dropWhile isSpace with
      | '\x7d' :: rest => some (.table [], rest)
      | s => do
          let (pairs, rest) ← pairs fuel depth s
          return (← inlineTable pairs, rest)
  | _ + 1, _, s => plainScalar s

/-- Reads the items of an array from the first one up to the closing bracket. -/
def items : Nat → Nat → List Char → Option (List Value × List Char)
  | 0, _, _ => none
  | fuel + 1, depth, s => do
      let (v, s) ← value fuel depth s
      match skipTrivia s with
      | ']' :: rest => return ([v], rest)
      | ',' :: rest =>
          match skipTrivia rest with
          | ']' :: rest => return ([v], rest)
          | s =>
              let (vs, rest) ← items fuel depth s
              return (v :: vs, rest)
      | _ => none

/-- Reads the entries of an inline table from the first one up to the closing brace. -/
def pairs : Nat → Nat → List Char → Option (List (List String × Value) × List Char)
  | 0, _, _ => none
  | fuel + 1, depth, s => do
      let (k, s) ← key s
      let (v, s) ← value fuel depth ((← exactly '=' s).dropWhile isSpace)
      match s.dropWhile isSpace with
      | '\x7d' :: rest => return ([(k, v)], rest)
      | ',' :: rest =>
          let (more, rest) ← pairs fuel depth rest
          return ((k, v) :: more, rest)
      | _ => none

end

/-- A statement. -/
inductive Statement where
  | header (path : List String)
  | arrayHeader (path : List String)
  | entry (key : List String) (v : Value)

/-- Drops blanks and a comment up to the end of the line, which must come there. -/
def endLine (s : List Char) : Option (List Char) :=
  match dropComment (s.dropWhile isSpace) with
  | [] => some []
  | s => lineBreak? s

/-- Reads one statement and the end of its line. -/
def statement (s : List Char) : Option (Statement × List Char) :=
  match s with
  | '[' :: '[' :: rest => do
      let (path, s) ← key rest
      let s ← endLine (← exactly ']' (← exactly ']' s))
      return (.arrayHeader path, s)
  | '[' :: rest => do
      let (path, s) ← key rest
      let s ← endLine (← exactly ']' s)
      return (.header path, s)
  | s => do
      let (k, rest) ← key s
      let (v, rest) ← value (2 * s.length + 2) (maxDepth - 1) ((← exactly '=' rest).dropWhile isSpace)
      return (.entry k v, ← endLine rest)

/-- Reads statements up to the end of the text; `done` lists those already read, last first. -/
def statementsFrom (done : List Statement) : Nat → List Char → Option (List Statement)
  | 0, _ => none
  | fuel + 1, s =>
      match s.dropWhile isSpace with
      | [] => some done.reverse
      | c :: rest =>
          if c == '#' || c == '\n' || c == '\r' then
            match endLine (c :: rest) with
            | some s => statementsFrom done fuel s
            | none => none
          else
            match statement (c :: rest) with
            | some (st, s) => statementsFrom (st :: done) fuel s
            | none => none

/-- The statements of a text; a byte order mark at its start is dropped. -/
def statements (s : List Char) : Option (List Statement) :=
  let s := if s.head? = some (Char.ofNat 0xFEFF) then s.tail else s
  statementsFrom [] (s.length + 1) s

/-! ## Texts -/

/-- The tables built so far and the path of the table that entries go to. -/
structure Builder where
  root : Entries := []
  path : List String := []

/-- Takes a statement. -/
def Builder.add (b : Builder) : Statement → Option Builder
  | .entry key v => do
      let k ← key.getLast?
      let root ← b.root.update false (Entries.addEntry key.dropLast k v) b.path .header
      return { b with root }
  | .header path => do
      let k ← path.getLast?
      return ⟨← b.root.openTable path.dropLast k, path⟩
  | .arrayHeader path => do
      let k ← path.getLast?
      return ⟨← b.root.openNextTable path.dropLast k, path⟩

/-- The table a list of statements describes. -/
def build (sts : List Statement) : Option (List (String × Value)) := do
  let b ← sts.foldlM Builder.add ({} : Builder)
  return entryValues b.root

/-- The table of a TOML text. -/
def parse (s : String) : Option (List (String × Value)) := (statements s.toList).bind build

end LayerLint.Toml
