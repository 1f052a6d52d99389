import LayerLint.Json.Value

/-!
# `Json.Record` — reading typed values

Decoders turn a JSON value into a value of a domain type or refuse it. A decoder that looks inside an
object or array is given the number of levels it may still open, so the nesting of the typed part of a
text is bounded; values it does not look into are free of that bound.

## Contents
- **Leaves.** Texts, counts, names.
- **Lists and maps.** `listOf`, `idMembers`.
- **Records.** `fields`: an object whose known members occur once, or an array of the fields in
  order; `required`, `optional`, `withDefault` for their presence.
-/

namespace LayerLint.Json

/-! ## Leaves -/

/-- A text. -/
def readText : Value → Option String
  | .string raw => Quoted.unescape raw
  | _ => none

/-- A 64-bit count. -/
def readCount : Value → Option Nat
  | .number n => n.natBelow? wordBound
  | _ => none

/-- A 64-bit word. -/
def readWord (v : Value) : Option UInt64 := (readCount v).map UInt64.ofNat

/-- A 32-bit id. -/
def readId : Value → Option UInt32
  | .number n => (n.natBelow? idBound).map UInt32.ofNat
  | _ => none

/-- A truth value. -/
def readBool : Value → Option Bool
  | .bool b => some b
  | _ => none

/-- The name of an enumeration value: a text, or an object whose one member has that name and no
value. -/
def readName (levels : Nat) : Value → Option String
  | .string raw => Quoted.unescape raw
  | .object [(raw, .null)] => if levels = 0 then none else Quoted.unescape raw
  | _ => none

/-! ## Lists and maps -/

/-- A list; `item` is given the levels left inside it. -/
def listOf {α : Type} (levels : Nat) (item : Nat → Value → Option α) : Value → Option (List α)
  | .array items =>
      match levels with
      | 0 => none
      | inner + 1 => items.mapM (item inner)
  | _ => none

/-- The id a member name spells: plain decimal digits, without sign, escape or leading zero. -/
def readIdKey (raw : List Char) : Option UInt32 :=
  match Number.scan raw with
  | some (n, []) => (n.natBelow? idBound).map UInt32.ofNat
  | _ => none

/-- The members of an object with ids for names, in order; `item` is given the levels left inside. -/
def idMembers {α : Type} (levels : Nat) (item : Nat → Value → Option α) :
    Value → Option (List (UInt32 × α))
  | .object members =>
      match levels with
      | 0 => none
      | inner + 1 => members.mapM fun (k, v) => return (← readIdKey k, ← item inner v)
  | _ => none

/-! ## Records -/

/-- The one value given under `name`: absent if there is none, refused if there are several. -/
def uniqueMember (members : List (String × Value)) (name : String) : Option (Option Value) :=
  match members.filter (·.1 == name) with
  | [] => some none
  | [(_, v)] => some (some v)
  | _ => none

/-- The values given for the fields `names` of a record. An object may list them in any order, beside
members of other names; an array lists them in order and may stop early. -/
def fields (names : List String) : Value → Option (List (Option Value))
  | .object members => do
      let named ← members.mapM fun (k, v) => return (← Quoted.unescape k, v)
      names.mapM (uniqueMember named)
  | .array items =>
      if items.length ≤ names.length then
        some (items.map some ++ List.replicate (names.length - items.length) none)
      else none
  | _ => none

/-- A field that must be given. -/
def required {α : Type} (read : Value → Option α) (v : Option Value) : Option α := v.bind read

/-- A field that may be left out or null. -/
def optional {α : Type} (read : Value → Option α) : Option Value → Option (Option α)
  | none => some none
  | some .null => some none
  | some v => (read v).map some

/-- A field that may be left out. -/
def withDefault {α : Type} (default : α) (read : Value → Option α) : Option Value → Option α
  | none => some default
  | some v => read v

end LayerLint.Json
