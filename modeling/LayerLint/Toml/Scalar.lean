import LayerLint.Bounds
import LayerLint.Json.Number

/-!
# `Toml.Scalar` — numbers and dates

Readers for the scalars that are written without quotes. They split the longest scalar off the front
of a text and leave it to the caller that nothing else follows.

## Contents
- **Digits.** Runs of digits in which single underscores may stand between digits.
- **Integers.** `integer`, in four bases, within 64 signed bits.
- **Floats.** `float`: only whether it is one matters, so no value is kept.
- **Dates.** `dateTime`: dates, times and both together, checked against the calendar.
-/

namespace LayerLint.Toml

/-! ## Digits -/

/-- Splits off the digits that continue a run, dropping underscores between digits. -/
def moreDigits (isDigit : Char → Bool) : List Char → List Char × List Char
  | '_' :: c :: rest =>
      if isDigit c then
        let (ds, rest) := moreDigits isDigit rest
        (c :: ds, rest)
      else ([], '_' :: c :: rest)
  | c :: rest =>
      if isDigit c then
        let (ds, rest) := moreDigits isDigit rest
        (c :: ds, rest)
      else ([], c :: rest)
  | [] => ([], [])

/-- Splits off a nonempty run of digits, dropping underscores between digits. -/
def digitRun (isDigit : Char → Bool) : List Char → Option (List Char × List Char)
  | c :: rest =>
      if isDigit c then
        let (ds, rest) := moreDigits isDigit rest
        some (c :: ds, rest)
      else none
  | [] => none

/-- The value of a digit in bases up to 16. -/
def digitValue (c : Char) : Nat :=
  if c.isDigit then c.toNat - 48 else if 'a' ≤ c then c.toNat - 87 else c.toNat - 55

/-- The value of a run of digits. -/
def runValue (base : Nat) (ds : List Char) : Nat := ds.foldl (fun n c => n * base + digitValue c) 0

/-- Splits off exactly `n` decimal digits. -/
def fixedDigits (n : Nat) (s : List Char) : Option (Nat × List Char) :=
  let ds := s.take n
  if ds.length = n && ds.all Char.isDigit then some (runValue 10 ds, s.drop n) else none

/-! ## Integers -/

/-- Splits off a sign. -/
def sign : List Char → Bool × List Char
  | '+' :: rest => (false, rest)
  | '-' :: rest => (true, rest)
  | s => (false, s)

/-- Splits off decimal digits: a zero alone, or a run that does not start with one. -/
def decimalDigits : List Char → Option (List Char × List Char)
  | '0' :: rest => some (['0'], rest)
  | s => digitRun Char.isDigit s

/-- A hexadecimal digit. -/
def isHexDigit (c : Char) : Bool := c.isDigit || ('a' ≤ c && c ≤ 'f') || ('A' ≤ c && c ≤ 'F')

/-- Splits off an integer written with a base. -/
def basedInteger (base : Nat) (isDigit : Char → Bool) (s : List Char) : Option (Int × List Char) := do
  let (ds, rest) ← digitRun isDigit s
  let n := runValue base ds
  if n < signedBound then return (n, rest) else none

/-- Splits off an integer. -/
def integer : List Char → Option (Int × List Char)
  | '0' :: 'x' :: rest => basedInteger 16 isHexDigit rest
  | '0' :: 'o' :: rest => basedInteger 8 (fun c => '0' ≤ c && c ≤ '7') rest
  | '0' :: 'b' :: rest => basedInteger 2 (fun c => c == '0' || c == '1') rest
  | s => do
      let (negative, s) := sign s
      let (ds, rest) ← decimalDigits s
      let n := runValue 10 ds
      if negative then if n ≤ signedBound then return (-(n : Int), rest) else none
      else if n < signedBound then return (n, rest)
      else none

/-! ## Floats -/

/-- Splits off the fraction after a point. -/
def fraction? : List Char → Option (List Char × List Char)
  | '.' :: rest => digitRun Char.isDigit rest
  | _ => none

/-- Splits off the sign and digits of an exponent. -/
def exponent? : List Char → Option (Bool × List Char × List Char)
  | c :: rest =>
      if c == 'e' || c == 'E' then
        let (negative, rest) := sign rest
        (digitRun Char.isDigit rest).map fun (ds, rest) => (negative, ds, rest)
      else none
  | [] => none

/-- The decimal `digits * 10 ^ exponent` lies beyond the largest float, with the tie that rounds up. -/
def isTooLarge (digits : Nat) (exponent : Int) : Bool :=
  if digits = 0 then false
  else if 400 < (Nat.toDigits 10 digits).length + exponent then true
  else if (Nat.toDigits 10 digits).length + exponent < 0 then false
  else (twoTo 1024 - twoTo 970) * tenTo (-exponent).toNat ≤ digits * tenTo exponent.toNat

/-- Splits off `inf` or `nan`. -/
def specialFloat : List Char → Option (List Char)
  | 'i' :: 'n' :: 'f' :: rest => some rest
  | 'n' :: 'a' :: 'n' :: rest => some rest
  | _ => none

/-- Splits off a float: digits with a fraction, an exponent, or both. A positive one must be finite. -/
def float (s : List Char) : Option (List Char) := do
  let (negative, s) := sign s
  match specialFloat s with
  | some rest => return rest
  | none =>
      let (whole, s) ← decimalDigits s
      let (frac, s, hasFraction) :=
        match fraction? s with
        | some (ds, rest) => (ds, rest, true)
        | none => ([], s, false)
      match exponent? s with
      | some (down, ds, rest) =>
          let e := runValue 10 ds
          let shift : Int := (if down then -(e : Int) else e) - frac.length
          if !negative && isTooLarge (runValue 10 (whole ++ frac)) shift then none else return rest
      | none =>
          if !hasFraction then none
          else if !negative && isTooLarge (runValue 10 (whole ++ frac)) (-(frac.length : Int)) then none
          else return s

/-! ## Dates -/

/-- Splits off one character. -/
def exactly (c : Char) : List Char → Option (List Char)
  | d :: rest => if c = d then some rest else none
  | [] => none

/-- The number of days of a month. -/
def daysIn (year month : Nat) : Nat :=
  if month = 2 then
    if year % 4 = 0 && (year % 100 != 0 || year % 400 = 0) then 29 else 28
  else if month = 4 || month = 6 || month = 9 || month = 11 then 30
  else 31

/-- Splits off a date that exists. -/
def date (s : List Char) : Option (List Char) := do
  let (year, s) ← fixedDigits 4 s
  let (month, s) ← fixedDigits 2 (← exactly '-' s)
  let (day, s) ← fixedDigits 2 (← exactly '-' s)
  if 1 ≤ month && month ≤ 12 && 1 ≤ day && day ≤ daysIn year month then return s else none

/-- Splits off hours and minutes. -/
def hourMinute (s : List Char) : Option (List Char) := do
  let (hour, s) ← fixedDigits 2 s
  let (minute, s) ← fixedDigits 2 (← exactly ':' s)
  if hour ≤ 23 && minute ≤ 59 then return s else none

/-- Splits off a time of day, seconds included; a minute may have a leap second. -/
def time (s : List Char) : Option (List Char) := do
  let (second, s) ← fixedDigits 2 (← exactly ':' (← hourMinute s))
  if 60 < second then none
  match s with
  | '.' :: c :: rest =>
      if c.isDigit then return rest.dropWhile Char.isDigit else return s
  | _ => return s

/-- Drops an offset from universal time. -/
def dropOffset (s : List Char) : List Char :=
  match s with
  | c :: rest =>
      if c == 'Z' || c == 'z' then rest
      else if c == '+' || c == '-' then (hourMinute rest).getD s
      else s
  | [] => []

/-- Splits off a date, a time, or both with a `T` or a blank between them. -/
def dateTime (s : List Char) : Option (List Char) :=
  match date s with
  | some (c :: rest) =>
      if c == 'T' || c == 't' || c == ' ' then
        match time rest with
        | some rest => some (dropOffset rest)
        | none => some (c :: rest)
      else some (c :: rest)
  | some [] => some []
  | none => time s

end LayerLint.Toml
