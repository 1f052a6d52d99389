import LayerLint.Json.Token

/-!
# `Json.Value` — JSON values and their text

A value keeps numbers and strings as written and objects as member lists, repeated names included:
which of these a reader accepts is its own decision. Texts are read by a stack machine that takes one
token at a time, so nesting is bounded by nothing but the text.

## Contents
- **Values.** `Value` and its constructors for texts and counts.
- **Reading.** `Frame`, `State`, `State.step`, `parse`.
- **Writing.** `Value.tokens` and `Value.compact` without white space, `Value.pretty` indented.
-/

namespace LayerLint.Json

/-! ## Values -/

/-- A JSON value. -/
inductive Value where
  | null
  | bool (b : Bool)
  | number (n : Number)
  | string (raw : List Char)
  | array (items : List Value)
  | object (members : List (List Char × Value))
  deriving Repr, Inhabited

namespace Value

/-- A string value with the given text. -/
def text (s : String) : Value := string (Quoted.escape s.toList)

/-- A count. -/
def nat (n : Nat) : Value := number (Number.ofNat n)

/-- An integer. -/
def int (i : Int) : Value := number (Number.ofInt i)

/-- An object with named members. -/
def record (members : List (String × Value)) : Value :=
  object (members.map fun (k, v) => (Quoted.escape k.toList, v))

end Value

/-! ## Reading -/

/-- A container that waits for the value now being read; what it holds so far is listed last first. -/
inductive Frame where
  | array (items : List Value)
  | object (members : List (List Char × Value)) (key : List Char)

/-- What the reader expects next, inside the containers that are open (innermost first). -/
inductive State where
  /-- A value. -/
  | value (outer : List Frame)
  /-- A value or the end of an array just opened. -/
  | firstItem (outer : List Frame)
  /-- A comma or the end of the array. -/
  | afterItem (outer : List Frame) (items : List Value)
  /-- A name or the end of an object just opened. -/
  | firstKey (outer : List Frame)
  /-- A name. -/
  | key (outer : List Frame) (members : List (List Char × Value))
  /-- The colon after a name. -/
  | colon (outer : List Frame) (members : List (List Char × Value)) (key : List Char)
  /-- A comma or the end of the object. -/
  | afterMember (outer : List Frame) (members : List (List Char × Value))
  /-- Nothing: the value is complete. -/
  | complete (v : Value)

namespace State

/-- Hands a finished value to the innermost open container. -/
def deliver (v : Value) : List Frame → State
  | [] => complete v
  | .array items :: outer => afterItem outer (v :: items)
  | .object members k :: outer => afterMember outer ((k, v) :: members)

/-- Starts a value with its first token. -/
def start (outer : List Frame) : Token → Option State
  | .null => some (deliver .null outer)
  | .bool b => some (deliver (.bool b) outer)
  | .number n => some (deliver (.number n) outer)
  | .quoted raw => some (deliver (.string raw) outer)
  | .openBracket => some (firstItem outer)
  | .openBrace => some (firstKey outer)
  | _ => none

/-- Takes one token. -/
def step : State → Token → Option State
  | value outer, t => start outer t
  | firstItem outer, .closeBracket => some (deliver (.array []) outer)
  | firstItem outer, t => start (.array [] :: outer) t
  | afterItem outer items, .closeBracket => some (deliver (.array items.reverse) outer)
  | afterItem outer items, .comma => some (value (.array items :: outer))
  | firstKey outer, .closeBrace => some (deliver (.object []) outer)
  | firstKey outer, .quoted k => some (colon outer [] k)
  | key outer members, .quoted k => some (colon outer members k)
  | colon outer members k, .colon => some (value (.object members k :: outer))
  | afterMember outer members, .closeBrace => some (deliver (.object members.reverse) outer)
  | afterMember outer members, .comma => some (key outer members)
  | _, _ => none

/-- Takes a list of tokens. -/
def run (s : State) (ts : List Token) : Option State := ts.foldlM step s

end State

/-- The value a list of tokens spells out. -/
def ofTokens (ts : List Token) : Option Value :=
  match (State.value []).run ts with
  | some (.complete v) => some v
  | _ => none

/-- The value of a JSON text. -/
def parseChars (s : List Char) : Option Value := (Token.all s).bind ofTokens

/-- The value of a JSON text. -/
def parse (s : String) : Option Value := parseChars s.toList

/-! ## Writing -/

namespace Value

mutual

/-- The tokens that spell out a value. -/
def tokens : Value → List Token
  | null => [.null]
  | bool b => [.bool b]
  | number n => [.number n]
  | string raw => [.quoted raw]
  | array items => .openBracket :: itemTokens items
  | object members => .openBrace :: memberTokens members

/-- The tokens of an array after its opening bracket. -/
def itemTokens : List Value → List Token
  | [] => [.closeBracket]
  | v :: vs => v.tokens ++ moreItemTokens vs

/-- The tokens of an array after one of its items. -/
def moreItemTokens : List Value → List Token
  | [] => [.closeBracket]
  | v :: vs => .comma :: v.tokens ++ moreItemTokens vs

/-- The tokens of an object after its opening brace. -/
def memberTokens : List (List Char × Value) → List Token
  | [] => [.closeBrace]
  | (k, v) :: ms => .quoted k :: .colon :: v.tokens ++ moreMemberTokens ms

/-- The tokens of an object after one of its members. -/
def moreMemberTokens : List (List Char × Value) → List Token
  | [] => [.closeBrace]
  | (k, v) :: ms => .comma :: .quoted k :: .colon :: v.tokens ++ moreMemberTokens ms

end

/-- The text of a value without white space. -/
def compactChars (v : Value) : List Char := v.tokens.flatMap Token.text

/-- The text of a value without white space. -/
def compact (v : Value) : String := String.ofList v.compactChars

/-- A line break and two blanks for each level. -/
def breakLine (level : Nat) : List Char := '\n' :: List.replicate (2 * level) ' '

mutual

/-- The text of a value with one item or member a line, indented by two blanks a level. -/
def prettyChars (level : Nat) : Value → List Char
  | array (v :: vs) =>
      Token.text .openBracket ++ prettyItems (level + 1) (v :: vs) ++ breakLine level ++
        Token.text .closeBracket
  | object (m :: ms) =>
      Token.text .openBrace ++ prettyMembers (level + 1) (m :: ms) ++ breakLine level ++
        Token.text .closeBrace
  | v => v.compactChars

/-- The items of an array, each on its own line. -/
def prettyItems (level : Nat) : List Value → List Char
  | [] => []
  | [v] => breakLine level ++ prettyChars level v
  | v :: vs => breakLine level ++ prettyChars level v ++ ',' :: prettyItems level vs

/-- The members of an object, each on its own line. -/
def prettyMembers (level : Nat) : List (List Char × Value) → List Char
  | [] => []
  | [(k, v)] => breakLine level ++ Token.text (.quoted k) ++ ':' :: ' ' :: prettyChars level v
  | (k, v) :: ms =>
      breakLine level ++ Token.text (.quoted k) ++ ':' :: ' ' :: prettyChars level v ++
        ',' :: prettyMembers level ms

end

/-- The indented text of a value. -/
def pretty (v : Value) : String := String.ofList (v.prettyChars 0)

end Value

end LayerLint.Json
