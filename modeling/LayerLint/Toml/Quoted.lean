import LayerLint.Json.Quoted

/-!
# `Toml.Quoted` — the four forms of strings

Basic strings have escapes, literal strings have none; both exist on one line and over several lines.
Every reader is given what follows the opening delimiter and returns the text with what follows the
closing one.

## Contents
- **Characters.** What may stand in comments and strings.
- **One line.** `basic`, `literal`.
- **Several lines.** `multiBasic`, `multiLiteral`: a line break right after the opening delimiter is
  dropped, line breaks read as `'\n'`, and up to two quotes may stand before the closing delimiter.
-/

namespace LayerLint.Toml

/-! ## Characters -/

/-- Blanks within a line. -/
def isSpace (c : Char) : Bool := c == ' ' || c == '\t'

/-- Characters that may stand in comments and literal strings: all but control characters. -/
def isPlain (c : Char) : Bool := c == '\t' || (0x20 ≤ c.toNat && c.toNat != 0x7F)

/-- Splits off a line break. -/
def lineBreak? : List Char → Option (List Char)
  | '\n' :: rest => some rest
  | '\r' :: '\n' :: rest => some rest
  | _ => none

/-- Drops a line break at the front. -/
def dropLineBreak (s : List Char) : List Char := (lineBreak? s).getD s

namespace Quoted

/-- The character that a backslash and one letter stand for. -/
def shortEscape? : Char → Option Char
  | 'b' => some '\x08'
  | 't' => some '\t'
  | 'n' => some '\n'
  | 'f' => some '\x0c'
  | 'r' => some '\r'
  | '"' => some '"'
  | '\\' => some '\\'
  | _ => none

/-- The character with a code point; surrogates and numbers beyond Unicode name none. -/
def scalar? (n : Nat) : Option Char :=
  if n < 0xD800 || (0xE000 ≤ n && n < 0x110000) then some (Char.ofNat n) else none

/-- The character that hexadecimal digits name. -/
def hexChar? (ds : List Char) : Option Char := do
  let n ← ds.foldlM (fun n d => return n * 16 + (← Json.Quoted.hexValue? d)) 0
  scalar? n

/-! ## One line -/

/-- Reads a basic string; `done` is the text so far, last first. -/
def basic (done : List Char) : List Char → Option (String × List Char)
  | [] => none
  | '"' :: rest => some (String.ofList done.reverse, rest)
  | '\\' :: 'u' :: a :: b :: c :: d :: rest =>
      match hexChar? [a, b, c, d] with
      | some x => basic (x :: done) rest
      | none => none
  | '\\' :: 'U' :: a :: b :: c :: d :: e :: f :: g :: h :: rest =>
      match hexChar? [a, b, c, d, e, f, g, h] with
      | some x => basic (x :: done) rest
      | none => none
  | '\\' :: e :: rest =>
      match shortEscape? e with
      | some x => basic (x :: done) rest
      | none => none
  | c :: rest => if isPlain c && c != '\\' then basic (c :: done) rest else none

/-- Reads a literal string. -/
def literal (s : List Char) : Option (String × List Char) :=
  match s.dropWhile fun c => isPlain c && c != '\x27' with
  | '\x27' :: rest => some (String.ofList (s.takeWhile fun c => isPlain c && c != '\x27'), rest)
  | _ => none

/-! ## Several lines -/

/-- Given what follows three quotes `q` inside a string, the further quotes that are still part of its
text and what follows the closing delimiter; six quotes in a row are too many. -/
def closing (q : Char) : List Char → Option (List Char × List Char)
  | a :: b :: c :: rest =>
      if a == q && b == q && c == q then none
      else if a == q && b == q then some ([q, q], c :: rest)
      else if a == q then some ([q], b :: c :: rest)
      else some ([], a :: b :: c :: rest)
  | [a, b] =>
      if a == q && b == q then some ([q, q], [])
      else if a == q then some ([q], [b])
      else some ([], [a, b])
  | [a] => if a == q then some ([q], []) else some ([], [a])
  | [] => some ([], [])

/-- A line break follows, blanks aside. -/
def endsLine (s : List Char) : Bool := (lineBreak? (s.dropWhile isSpace)).isSome

/-- Reads a basic string of several lines. A backslash at the end of a line drops the blanks and line
breaks that follow it; `dropping` says that this is under way. -/
def multiBasicFrom (dropping : Bool) (done : List Char) : List Char → Option (String × List Char)
  | [] => none
  | '"' :: '"' :: '"' :: rest =>
      (closing '"' rest).map fun (quotes, rest) => (String.ofList (done.reverse ++ quotes), rest)
  | '\\' :: 'u' :: a :: b :: c :: d :: rest =>
      match hexChar? [a, b, c, d] with
      | some x => multiBasicFrom false (x :: done) rest
      | none => none
  | '\\' :: 'U' :: a :: b :: c :: d :: e :: f :: g :: h :: rest =>
      match hexChar? [a, b, c, d, e, f, g, h] with
      | some x => multiBasicFrom false (x :: done) rest
      | none => none
  | '\\' :: e :: rest =>
      match shortEscape? e with
      | some x => multiBasicFrom false (x :: done) rest
      | none => if endsLine (e :: rest) then multiBasicFrom true done (e :: rest) else none
  | '\r' :: '\n' :: rest => multiBasicFrom dropping (if dropping then done else '\n' :: done) rest
  | '\n' :: rest => multiBasicFrom dropping (if dropping then done else '\n' :: done) rest
  | c :: rest =>
      if isSpace c && dropping then multiBasicFrom true done rest
      else if isPlain c && c != '\\' then multiBasicFrom false (c :: done) rest
      else none

/-- Reads a basic string of several lines. -/
def multiBasic (s : List Char) : Option (String × List Char) :=
  multiBasicFrom false [] (dropLineBreak s)

/-- Reads a literal string of several lines; `done` is the text so far, last first. -/
def multiLiteralFrom (done : List Char) : List Char → Option (String × List Char)
  | [] => none
  | '\x27' :: '\x27' :: '\x27' :: rest =>
      (closing '\x27' rest).map fun (quotes, rest) => (String.ofList (done.reverse ++ quotes), rest)
  | '\r' :: '\n' :: rest => multiLiteralFrom ('\n' :: done) rest
  | '\n' :: rest => multiLiteralFrom ('\n' :: done) rest
  | c :: rest => if isPlain c then multiLiteralFrom (c :: done) rest else none

/-- Reads a literal string of several lines. -/
def multiLiteral (s : List Char) : Option (String × List Char) :=
  multiLiteralFrom [] (dropLineBreak s)

end Quoted

end LayerLint.Toml
