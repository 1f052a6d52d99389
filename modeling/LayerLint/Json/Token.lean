import LayerLint.Json.Number
import LayerLint.Json.Quoted

/-!
# `Json.Token` — the words of a JSON text

A text is cut into tokens; white space between them is insignificant and dropped here, once for all
readers.

## Contents
- **Tokens.** `Token`, `Token.text`.
- **Cutting.** `Token.next?` reads one token, `Token.all` a whole text.
-/

namespace LayerLint.Json

/-! ## Tokens -/

/-- A token: punctuation, a literal name, a number, or a quoted text without its quotes. -/
inductive Token where
  | openBrace
  | closeBrace
  | openBracket
  | closeBracket
  | colon
  | comma
  | null
  | bool (b : Bool)
  | number (n : Number)
  | quoted (raw : List Char)
  deriving Repr, DecidableEq

namespace Token

/-- The written form. -/
def text : Token → List Char
  | openBrace => ['\x7b']
  | closeBrace => ['\x7d']
  | openBracket => ['[']
  | closeBracket => [']']
  | colon => [':']
  | comma => [',']
  | null => ['n', 'u', 'l', 'l']
  | bool true => ['t', 'r', 'u', 'e']
  | bool false => ['f', 'a', 'l', 's', 'e']
  | number n => n.text
  | quoted raw => '"' :: raw ++ ['"']

/-! ## Cutting -/

/-- The characters that may stand between tokens. -/
def isSpace (c : Char) : Bool := c == ' ' || c == '\t' || c == '\n' || c == '\r'

/-- Reads the token at the front of a text that does not start with white space. -/
def next? : List Char → Option (Token × List Char)
  | '\x7b' :: rest => some (openBrace, rest)
  | '\x7d' :: rest => some (closeBrace, rest)
  | '[' :: rest => some (openBracket, rest)
  | ']' :: rest => some (closeBracket, rest)
  | ':' :: rest => some (colon, rest)
  | ',' :: rest => some (comma, rest)
  | '"' :: rest => (Quoted.scan [] rest).map fun (raw, rest) => (quoted raw, rest)
  | 'n' :: 'u' :: 'l' :: 'l' :: rest => some (null, rest)
  | 't' :: 'r' :: 'u' :: 'e' :: rest => some (bool true, rest)
  | 'f' :: 'a' :: 'l' :: 's' :: 'e' :: rest => some (bool false, rest)
  | s => (Number.scan s).map fun (n, rest) => (number n, rest)

/-- The tokens of a text, at most `fuel` of them, onto those already read (last first). -/
def allFrom (done : List Token) : Nat → List Char → Option (List Token)
  | fuel, s =>
      match s.dropWhile isSpace with
      | [] => some done.reverse
      | c :: rest =>
          match fuel with
          | 0 => none
          | fuel + 1 =>
              match next? (c :: rest) with
              | none => none
              | some (t, rest) => allFrom (t :: done) fuel rest

/-- The tokens of a text. A token has at least one character, so the length bounds their number. -/
def all (s : List Char) : Option (List Token) := allFrom [] s.length s

end Token

end LayerLint.Json
