/-!
# `Text.Visible` — control characters that can be seen

Messages for a log may hold names from outside. Control characters that a terminal would obey are
written out in them; line breaks and tabs stay as they are.

## Contents
- **Writing out.** `visibleChar`, `visible`.
-/

namespace LayerLint.Text

/-! ## Writing out -/

/-- A number in hexadecimal digits. -/
def hexadecimal (n : Nat) : List Char := Nat.toDigits 16 n

/-- Bell, backspace, form feed, escape and delete. -/
def obeyedChars : List Nat := [0x07, 0x08, 0x0C, 0x1B, 0x7F]

/-- A character as it is written in a log. -/
def visibleChar (c : Char) : List Char :=
  let n := c.toNat
  if obeyedChars.contains n then
    '\\' :: 'x' :: (if n < 0x10 then '0' :: hexadecimal n else hexadecimal n)
  else if 0x80 ≤ n && n ≤ 0x9F then "\\u\x7b".toList ++ hexadecimal n ++ ['\x7d']
  else [c]

/-- A text as it is written in a log. -/
def visible (s : String) : String := String.ofList (s.toList.flatMap visibleChar)

end LayerLint.Text
