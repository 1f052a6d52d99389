import LayerLint.Bounds
import LayerLint.Json.Number

/-!
# `Json.Shortest` — floats as the shortest decimals that read back

A finite float stands for every real that rounds to it. It is written with the fewest digits that
name one of these reals, the nearest one if two have that length.

## Contents
- **Decoding.** `FloatParts`: a float as an integer times a power of two, with the interval of reals
  that round to it.
- **Digits.** `FloatParts.shortest`: the first decimal grid that meets the interval.
- **Notation.** `Number.ofFloat?`: positional up to 16 places, with an exponent beyond.
-/

namespace LayerLint.Json

/-! ## Decoding -/

/-- A positive float `mantissa * 2 ^ exponent`; below a power of two the next float is only half as
far away. -/
structure FloatParts where
  mantissa : Nat
  exponent : Int
  atPowerOfTwo : Bool

namespace FloatParts

/-- The parts of a finite float other than zero. -/
def ofBits? (bits : UInt64) : Option FloatParts :=
  let e : Nat := (bits.toNat / twoTo 52) % twoTo 11
  let f : Nat := bits.toNat % twoTo 52
  if e = 2047 || (e = 0 && f = 0) then none
  else if e = 0 then some ⟨f, -1074, false⟩
  else some ⟨twoTo 52 + f, (e : Int) - 1075, f = 0 && e > 1⟩

/-- The common denominator of the float and the ends of its interval. -/
def denominator (p : FloatParts) : Nat := 4 * twoTo (-p.exponent).toNat

/-- The numerator of the float. -/
def numerator (p : FloatParts) : Nat := 4 * p.mantissa * twoTo p.exponent.toNat

/-- A quarter of the distance to the next float, over the denominator. -/
def quarter (p : FloatParts) : Nat := twoTo p.exponent.toNat

/-- The decimal `d * 10 ^ k` rounds to the float; the ends of the interval do if the mantissa is
even. -/
def admits (p : FloatParts) (d : Nat) (k : Int) : Bool :=
  let value := d * tenTo k.toNat * p.denominator
  let scale := tenTo (-k).toNat
  let low := (p.numerator - (if p.atPowerOfTwo then 1 else 2) * p.quarter) * scale
  let high := (p.numerator + 2 * p.quarter) * scale
  if p.mantissa % 2 = 0 then low ≤ value && value ≤ high else low < value && value < high

/-- The number of digits before the decimal point; zero or less counts the zeros after it. -/
def magnitude (p : FloatParts) : Int :=
  if p.denominator ≤ p.numerator then (Nat.toDigits 10 (p.numerator / p.denominator)).length
  else 1 - (Nat.toDigits 10 ((p.denominator - 1) / p.numerator)).length

/-! ## Digits -/

/-- Looks for a decimal with `count` or more digits, at most `fuel` lengths. -/
def search (p : FloatParts) : Nat → Nat → Nat × Int
  | 0, _ => (p.mantissa, 0)
  | fuel + 1, count =>
      let k : Int := p.magnitude - count
      let n := p.numerator * tenTo (-k).toNat
      let d := p.denominator * tenTo k.toNat
      let below := n / d
      let nearerAbove := d < 2 * (n % d) || (d == 2 * (n % d) && below % 2 == 1)
      match p.admits below k, p.admits (below + 1) k with
      | true, true => (if nearerAbove then below + 1 else below, k)
      | true, false => (below, k)
      | false, true => (below + 1, k)
      | false, false => search p fuel (count + 1)

/-- The shortest decimal, as digits and the power of ten of the last one. -/
def shortest (p : FloatParts) : Nat × Int := p.search 17 1

end FloatParts

/-! ## Notation -/

namespace Number

/-- Writes `digits * 10 ^ k`: up to 16 places positionally, at most five zeros after the point, else
with one digit before the point and an exponent. -/
def ofDigits (negative : Bool) (digits : List Char) (k : Int) : Number :=
  let point : Int := digits.length + k
  if 0 ≤ k ∧ point ≤ 16 then
    ⟨negative, digits ++ List.replicate k.toNat '0', some ['0'], none⟩
  else if 0 < point ∧ point ≤ 16 then
    ⟨negative, digits.take point.toNat, some (digits.drop point.toNat), none⟩
  else if -5 < point ∧ point ≤ 0 then
    ⟨negative, ['0'], some (List.replicate (-point).toNat '0' ++ digits), none⟩
  else
    let e := point - 1
    ⟨negative, digits.take 1, if digits.length = 1 then none else some (digits.drop 1),
      some (e < 0, Nat.toDigits 10 e.natAbs)⟩

/-- Drops the zeros at the end of a run of digits, counting them into the power of ten. -/
def dropZeros : List Char → Int → List Char × Int
  | '0' :: rest, k => dropZeros rest (k + 1)
  | ds, k => (ds.reverse, k)

/-- The written form of a float; infinities and NaN have none. -/
def ofFloat? (bits : UInt64) : Option Number :=
  let negative : Bool := signedBound ≤ bits.toNat
  match FloatParts.ofBits? bits with
  | some p =>
      let (d, k) := p.shortest
      let (ds, k) := dropZeros (Nat.toDigits 10 d).reverse k
      some (ofDigits negative ds k)
  | none => if bits.toNat % signedBound = 0 then some ⟨negative, ['0'], some ['0'], none⟩ else none

end Number

end LayerLint.Json
