/-!
# `Json.Quoted` — the text between quotes

A JSON string is written between quotes with escapes. This module keeps the two questions about such
a text apart: whether its escapes are well formed (`scan`, which finds the closing quote), and which
text they stand for (`unescape`, which also needs every surrogate to have its partner).

## Contents
- **Escapes.** `hexValue?`, `hexUnit?`, `shortEscape?`.
- **Writing.** `escape`: quotes, backslashes and control characters are escaped, all else is copied.
- **Finding the end.** `scan`.
- **Reading.** `unescape`.
-/

namespace LayerLint.Json.Quoted

/-! ## Escapes -/

/-- The value of a hexadecimal digit. -/
def hexValue? (c : Char) : Option Nat :=
  if '0' ≤ c ∧ c ≤ '9' then some (c.toNat - 48)
  else if 'a' ≤ c ∧ c ≤ 'f' then some (c.toNat - 87)
  else if 'A' ≤ c ∧ c ≤ 'F' then some (c.toNat - 55)
  else none

/-- The 16-bit unit that four hexadecimal digits name. -/
def hexUnit? (a b c d : Char) : Option Nat := do
  return (← hexValue? a) * 0x1000 + (← hexValue? b) * 0x100 + (← hexValue? c) * 0x10 + (← hexValue? d)

/-- The character that a backslash and one letter stand for. -/
def shortEscape? : Char → Option Char
  | '"' => some '"'
  | '\\' => some '\\'
  | '/' => some '/'
  | 'b' => some '\x08'
  | 'f' => some '\x0c'
  | 'n' => some '\n'
  | 'r' => some '\r'
  | 't' => some '\t'
  | _ => none

/-- The unit opens a surrogate pair. -/
def isLeading (u : Nat) : Bool := 0xD800 ≤ u && u ≤ 0xDBFF

/-- The unit closes a surrogate pair. -/
def isTrailing (u : Nat) : Bool := 0xDC00 ≤ u && u ≤ 0xDFFF

/-- The character of a surrogate pair. -/
def joinPair (leading trailing : Nat) : Char :=
  Char.ofNat (0x10000 + (leading - 0xD800) * 0x400 + (trailing - 0xDC00))

/-! ## Writing -/

/-- The hexadecimal digit of a value below 16, in lower case. -/
def hexDigit (n : Nat) : Char := Char.ofNat (if n < 10 then 48 + n else 87 + n)

/-- The written form of one character. -/
def escapeChar (c : Char) : List Char :=
  if c = '"' then ['\\', '"']
  else if c = '\\' then ['\\', '\\']
  else if c = '\x08' then ['\\', 'b']
  else if c = '\x0c' then ['\\', 'f']
  else if c = '\n' then ['\\', 'n']
  else if c = '\r' then ['\\', 'r']
  else if c = '\t' then ['\\', 't']
  else if c.toNat < 0x20 then ['\\', 'u', '0', '0', hexDigit (c.toNat / 16), hexDigit (c.toNat % 16)]
  else [c]

/-- The written form of a text. -/
def escape (s : List Char) : List Char := s.flatMap escapeChar

/-! ## Finding the end -/

/-- Splits what follows an opening quote into the quoted text and what follows the closing quote.
Escapes must be well formed and control characters must be escaped; `done` holds, last first, what
was already passed. -/
def scan (done : List Char) : List Char → Option (List Char × List Char)
  | [] => none
  | '"' :: rest => some (done.reverse, rest)
  | '\\' :: 'u' :: a :: b :: c :: d :: rest =>
      if (hexUnit? a b c d).isSome then scan (d :: c :: b :: a :: 'u' :: '\\' :: done) rest else none
  | '\\' :: e :: rest => if (shortEscape? e).isSome then scan (e :: '\\' :: done) rest else none
  | c :: rest => if c.toNat < 0x20 then none else scan (c :: done) rest

/-! ## Reading -/

/-- Reads a quoted text; `leading` is a surrogate still waiting for its partner, `done` the text read
so far, last first. -/
def unescapeFrom (leading : Option Nat) (done : List Char) : List Char → Option (List Char)
  | [] => if leading.isNone then some done.reverse else none
  | '\\' :: 'u' :: a :: b :: c :: d :: rest =>
      match hexUnit? a b c d, leading with
      | none, _ => none
      | some u, some l =>
          if isTrailing u then unescapeFrom none (joinPair l u :: done) rest else none
      | some u, none =>
          if isLeading u then unescapeFrom (some u) done rest
          else if isTrailing u then none
          else unescapeFrom none (Char.ofNat u :: done) rest
  | '\\' :: e :: rest =>
      match shortEscape? e, leading with
      | some c, none => unescapeFrom none (c :: done) rest
      | _, _ => none
  | c :: rest => if leading.isNone then unescapeFrom none (c :: done) rest else none

/-- The text a quoted text stands for, unless it holds a lone surrogate. -/
def unescape (raw : List Char) : Option String := (unescapeFrom none [] raw).map String.ofList

end LayerLint.Json.Quoted
