import LayerLint.Bounds

/-!
# `Json.Number` — written numbers

A number is kept as it is written, because what it may stand for depends on the reader: a count
accepts plain digits only, a constant tells integers from floats by the written form.

## Contents
- **Lexemes.** `Number`, `Number.scan`, `Number.text`.
- **Counts.** `Number.nat?`: plain digits without sign, fraction or exponent.
- **Floats.** `Number.float?`: the digits that fit 64 bits, scaled by powers of ten.
-/

namespace LayerLint.Json

/-! ## Lexemes -/

/-- A number as it is written: digit runs without separators; an exponent carries whether it is
negative. -/
structure Number where
  negative : Bool := false
  whole : List Char
  fraction : Option (List Char) := none
  exponent : Option (Bool × List Char) := none
  deriving Repr, DecidableEq

namespace Number

/-- The value of a run of decimal digits. -/
def digitsValue (ds : List Char) : Nat := ds.foldl (fun n c => n * 10 + (c.toNat - 48)) 0

/-- Splits off a nonempty run of digits. -/
def scanDigits (s : List Char) : Option (List Char × List Char) :=
  match s.takeWhile Char.isDigit with
  | [] => none
  | ds => some (ds, s.dropWhile Char.isDigit)

/-- Splits off the digits before the point: a zero alone, or a run that does not start with one. -/
def scanWhole : List Char → Option (List Char × List Char)
  | '0' :: rest => some (['0'], rest)
  | s => scanDigits s

/-- Splits off a fraction if a point announces one. -/
def scanFraction : List Char → Option (Option (List Char) × List Char)
  | '.' :: rest => (scanDigits rest).map fun (ds, rest) => (some ds, rest)
  | s => some (none, s)

/-- Splits off the sign and digits of an exponent. -/
def scanSigned : List Char → Option ((Bool × List Char) × List Char)
  | '+' :: rest => (scanDigits rest).map fun (ds, rest) => ((false, ds), rest)
  | '-' :: rest => (scanDigits rest).map fun (ds, rest) => ((true, ds), rest)
  | s => (scanDigits s).map fun (ds, rest) => ((false, ds), rest)

/-- Splits off an exponent if a letter announces one. -/
def scanExponent : List Char → Option (Option (Bool × List Char) × List Char)
  | 'e' :: rest => (scanSigned rest).map fun (e, rest) => (some e, rest)
  | 'E' :: rest => (scanSigned rest).map fun (e, rest) => (some e, rest)
  | s => some (none, s)

/-- Splits off an unsigned number. -/
def scanUnsigned (negative : Bool) (s : List Char) : Option (Number × List Char) := do
  let (whole, s) ← scanWhole s
  let (fraction, s) ← scanFraction s
  let (exponent, s) ← scanExponent s
  return (⟨negative, whole, fraction, exponent⟩, s)

/-- Splits a number off the front of a text. -/
def scan : List Char → Option (Number × List Char)
  | '-' :: rest => scanUnsigned true rest
  | s => scanUnsigned false s

/-- The written form. -/
def text (n : Number) : List Char :=
  (if n.negative then ['-'] else []) ++ n.whole ++
    (match n.fraction with
      | some ds => '.' :: ds
      | none => []) ++
    (match n.exponent with
      | some (neg, ds) => 'e' :: (if neg then '-' :: ds else ds)
      | none => [])

/-- The written form of a count. -/
def ofNat (n : Nat) : Number := ⟨false, Nat.toDigits 10 n, none, none⟩

/-- The written form of an integer. -/
def ofInt (i : Int) : Number := ⟨i < 0, Nat.toDigits 10 i.natAbs, none, none⟩

/-! ## Counts -/

/-- The number is written with digits alone after its sign. -/
def isWhole (n : Number) : Bool := n.fraction.isNone && n.exponent.isNone

/-- The value of a number written with plain digits only; `-0` has a sign and is none. -/
def nat? (n : Number) : Option Nat :=
  if n.isWhole && !n.negative then some (digitsValue n.whole) else none

/-- A count below `bound`. -/
def natBelow? (bound : Nat) (n : Number) : Option Nat :=
  n.nat?.bind fun v => if v < bound then some v else none

/-! ## Floats -/

/-- Appends digits to a significand as long as it fits 64 bits; gives it with the digits left over. -/
def absorb (sig : Nat) : List Char → Nat × List Char
  | [] => (sig, [])
  | c :: rest =>
      let next := sig * 10 + (c.toNat - 48)
      if next < wordBound then absorb next rest else (sig, c :: rest)

/-- The value `x * 10 ^ e`, rounded after each step: one multiplication upwards (none if it leaves
the range of finite floats), divisions by at most `10 ^ 308` downwards. -/
def scale (x : Float) : Nat → Int → Option Float
  | 0, _ => some x
  | fuel + 1, e =>
      if 0 ≤ e then
        if e ≤ 308 then
          let y := x * Float.ofScientific 1 false e.toNat
          if y.isInf then none else some y
        else if x == 0 then some x
        else none
      else if -308 ≤ e then some (x / Float.ofScientific 1 false e.natAbs)
      else if x == 0 then some x
      else scale (x / Float.ofScientific 1 false 308) fuel (e + 308)

/-- The largest exponent that is read as a number; larger ones only say "beyond all bounds". -/
def exponentBound : Nat := 0x80000000

/-- The bits of the float a number stands for: the digits that fit 64 bits, the further ones dropped,
scaled by the written exponent. None if the value is too large for a float. -/
def float? (n : Number) : Option UInt64 := do
  let (sig, dropped) := absorb 0 n.whole
  let fraction := n.fraction.getD []
  let (sig, unused) := absorb sig fraction
  let shift : Int := (dropped.length : Int) - ((fraction.length : Int) - unused.length)
  let magnitude ←
    match n.exponent with
    | none => scale (Float.ofNat sig) (shift.natAbs + 1) shift
    | some (neg, ds) =>
        if digitsValue ds < exponentBound then
          let e := if neg then shift - digitsValue ds else shift + digitsValue ds
          scale (Float.ofNat sig) (e.natAbs + 1) e
        else if sig = 0 || neg then some 0
        else none
  return (if n.negative then -magnitude else magnitude).toBits

end Number

end LayerLint.Json
