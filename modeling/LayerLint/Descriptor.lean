import LayerLint.Diagnostic

/-!
# `Descriptor` — kinds of findings and their messages

A descriptor fixes the code, the rule name and the message format of one kind of finding. A format
holds placeholders: an index in braces stands for the argument at that index. Braces around anything
else are text.

## Contents
- **Placeholders.** `index?` reads an index, `placeholder?` the argument an opening brace stands for.
- **Messages.** `fill`, one pass over the format; arguments are never looked into.
- **Descriptors.** `Descriptor`, `Descriptor.diagnostic`.
-/

namespace LayerLint

/-! ## Placeholders -/

namespace Message

/-- The value of a run of digits that fits a 64-bit word. -/
def digits? (s : List Char) : Option Nat :=
  if s.isEmpty || !s.all Char.isDigit then none
  else
    let v := s.foldl (fun n c => n * 10 + (c.toNat - 48)) 0
    if v < wordBound then some v else none

/-- Reads an index: decimal digits after at most one plus sign. -/
def index? : List Char → Option Nat
  | '+' :: s => digits? s
  | s => digits? s

/-- The argument that an opening brace followed by `rest` stands for, with the number of characters
up to and including the closing brace. -/
def placeholder? (args : List String) (rest : List Char) : Option (String × Nat) :=
  let inner := rest.takeWhile (· != '\x7d')
  if inner.length < rest.length then
    ((index? inner).bind (args[·]?)).map (·, inner.length + 1)
  else none

/-! ## Messages -/

/-- Fills the placeholders of a format after dropping its first `skip` characters. -/
def fillFrom (args : List String) : Nat → List Char → List Char
  | _, [] => []
  | skip + 1, _ :: rest => fillFrom args skip rest
  | 0, c :: rest =>
      if c = '\x7b' then
        match placeholder? args rest with
        | some (arg, length) => arg.toList ++ fillFrom args length rest
        | none => c :: fillFrom args 0 rest
      else c :: fillFrom args 0 rest

/-- A format with its placeholders filled; those without an argument are left as written. -/
def fill (format : String) (args : List String) : String :=
  String.ofList (fillFrom args 0 format.toList)

end Message

/-! ## Descriptors -/

/-- One kind of finding. -/
structure Descriptor where
  /-- Code such as `RA07-001`. -/
  id : String
  /-- Name of the rule family. -/
  name : String
  title : String
  /-- Message format. -/
  message : String
  severity : Severity := .error
  deriving Repr, DecidableEq

namespace Descriptor

/-- A finding of this kind. -/
def diagnostic (d : Descriptor) (location : Location) (args : List String) : Diagnostic where
  code := d.id
  rule := d.name
  severity := d.severity
  location := location
  message := Message.fill d.message args

/-- Code, name and title on one line. -/
def display (d : Descriptor) : String := d.id ++ " " ++ d.name ++ ": " ++ d.title

end Descriptor

end LayerLint
