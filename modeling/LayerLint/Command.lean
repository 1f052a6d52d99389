import LayerLint.Report

/-!
# `Command` — the arguments of the command line

The first word that is no option names the command, and the words after it are its own. Options with
a value take it from the same word or from the next one, flags can be joined in one word, and each
may be given once before the command and once after it. A word that starts with a hyphen is an
option, except a lone hyphen and the words after `--`.

## Contents
- **Commands.** `Command`, `Invocation`.
- **Options.** `Flag`, and `Given` for what has been read of one part of the line.
- **Words.** `Word.of` for the form of a word, `readLong` and `readLetters` for an option.
- **Reading.** `readFront` up to the command, `readRest` after it, `Invocation.parse` for the whole.
-/

namespace LayerLint

/-! ## Commands -/

/-- What to do. -/
inductive Command where
  /-- Analyse the snapshots under some paths; `rules` restricts the rules. -/
  | check (paths : List String) (format : Format) (rules : Option String)
  | listRules
  /-- Write a configuration file to start from. -/
  | init (force : Bool)
  deriving Repr, DecidableEq

/-- The line as understood. -/
inductive Invocation where
  | version
  | run (command : Command) (config : Option String)
  deriving Repr, DecidableEq

namespace Command

/-! ## Options -/

/-- The options of all parts of the line. -/
inductive Flag where
  | verbose
  | config
  | version
  | format
  | rules
  | force
  deriving Repr, DecidableEq

namespace Flag

/-- The option takes a value. -/
def takesValue : Flag → Bool
  | config | format | rules => true
  | verbose | version | force => false

/-- The word for an option. -/
def longName : Flag → String
  | verbose => "verbose"
  | config => "config"
  | version => "version"
  | format => "format"
  | rules => "rules"
  | force => "force"

/-- The letter for an option. -/
def letter? : Flag → Option Char
  | verbose => some 'v'
  | config => some 'c'
  | version => some 'V'
  | format => some 'f'
  | rules | force => none

/-- A value the option accepts: paths are not empty and formats are known. -/
def accepts : Flag → String → Bool
  | config, v => v != ""
  | format, v => (Format.ofName? v).isSome
  | _, _ => true

end Flag

/-- The options that have been read, each with its value, and the other words. -/
structure Given where
  flags : List (Flag × String) := []
  words : List String := []
  deriving Repr, DecidableEq

namespace Given

/-- The value given for an option. -/
def value? (g : Given) (f : Flag) : Option String := g.flags.lookup f

/-- The option was given. -/
def has (g : Given) (f : Flag) : Bool := (g.value? f).isSome

/-- Adds an option, unless it was given before or its value is none it accepts. -/
def add (g : Given) (f : Flag) (value : String) : Option Given :=
  if g.has f || !f.accepts value then none else some { g with flags := g.flags ++ [(f, value)] }

end Given

/-! ## Words -/

/-- A word of the line, by its form. -/
inductive Word where
  /-- `--`, after which no word is an option. -/
  | escape
  /-- `--name` or `--name=value`. -/
  | long (name : String) (value : Option String)
  /-- Letters after one hyphen. -/
  | letters (s : List Char)
  | plain (s : String)
  deriving Repr, DecidableEq

/-- The form of a word. -/
def Word.of (s : String) : Word :=
  match s.toList with
  | ['-', '-'] => .escape
  | '-' :: '-' :: rest =>
      let name := rest.takeWhile (· != '=')
      let value := (rest.dropWhile (· != '=')).tail?
      .long (String.ofList name) (value.map String.ofList)
  | '-' :: c :: rest => .letters (c :: rest)
  | _ => .plain s

/-- What reading a word leads to. -/
inductive Step where
  /-- Go on. -/
  | next (g : Given)
  /-- The next word is the value of the option. -/
  | awaits (g : Given) (f : Flag)
  /-- The version was asked for, so that nothing else is read. -/
  | version
  deriving Repr, DecidableEq

/-- Reads an option that takes no value. -/
def readSwitch (g : Given) (f : Flag) : Option Step :=
  if f = .version then some .version else (g.add f "").map .next

/-- Reads an option by its word. -/
def readLong (known : List Flag) (g : Given) (name : String) (value : Option String) : Option Step := do
  let f ← known.find? (·.longName == name)
  match f.takesValue, value with
  | true, some v => return .next (← g.add f v)
  | true, none => return .awaits g f
  | false, none => readSwitch g f
  | false, some _ => none

/-- Reads letters after one hyphen: switches, and at the end an option with the rest as its value. -/
def readLetters (known : List Flag) (g : Given) : List Char → Option Step
  | [] => some (.next g)
  | c :: rest => do
      let f ← known.find? (·.letter? == some c)
      if f.takesValue then
        match rest with
        | [] => return .awaits g f
        | '=' :: v => return .next (← g.add f (String.ofList v))
        | v => return .next (← g.add f (String.ofList v))
      else
        match ← readSwitch g f with
        | .next g => readLetters known g rest
        | other => return other

/-- Reads an option. -/
def readOption (known : List Flag) (g : Given) : Word → Option Step
  | .long name value => readLong known g name value
  | .letters s => readLetters known g s
  | .escape | .plain _ => none

/-! ## Reading -/

/-- What stands before the words of a command. -/
inductive Front where
  | version
  | command (g : Given) (name : String) (rest : List String)
  deriving Repr, DecidableEq

/-- Reads up to the name of the command; `pending` awaits its value. -/
def readFront (known : List Flag) : Option Flag → Given → List String → Option Front
  | _, _, [] => none
  | some f, g, s :: rest =>
      match Word.of s with
      | .plain v => (g.add f v).bind fun g => readFront known none g rest
      | _ => none
  | none, g, s :: rest =>
      match Word.of s with
      | .plain name => some (.command g name rest)
      | w =>
          match readOption known g w with
          | some (.next g) => readFront known none g rest
          | some (.awaits g f) => readFront known (some f) g rest
          | some .version => some .version
          | none => none

/-- Reads the words after the name of a command; `pending` awaits its value. -/
def readRest (known : List Flag) : Option Flag → Given → List String → Option Given
  | none, g, [] => some g
  | some _, _, [] => none
  | some f, g, s :: rest =>
      match Word.of s with
      | .plain v => (g.add f v).bind fun g => readRest known none g rest
      | _ => none
  | none, g, s :: rest =>
      match Word.of s with
      | .escape => some { g with words := g.words ++ rest }
      | .plain w => readRest known none { g with words := g.words ++ [w] } rest
      | w =>
          match readOption known g w with
          | some (.next g) => readRest known none g rest
          | some (.awaits g f) => readRest known (some f) g rest
          | _ => none

/-- The options that may stand anywhere. -/
def anywhere : List Flag := [.verbose, .config]

/-- Reads a command by its name and the words after it. -/
def parse (name : String) (rest : List String) : Option (Command × Given) := do
  match name with
  | "check" =>
      let g ← readRest (anywhere ++ [.format, .rules]) none {} rest
      guard (g.words.all (· != ""))
      let format := ((g.value? .format).bind Format.ofName?).getD .text
      return (.check (if g.words.isEmpty then ["."] else g.words) format (g.value? .rules), g)
  | "list-rules" =>
      let g ← readRest anywhere none {} rest
      guard g.words.isEmpty
      return (.listRules, g)
  | "init" =>
      let g ← readRest (anywhere ++ [.force]) none {} rest
      guard g.words.isEmpty
      return (.init (g.has .force), g)
  | _ => none

end Command

/-- Reads a whole line. A configuration file named after the command wins over one named before it. -/
def Invocation.parse (args : List String) : Option Invocation := do
  match ← Command.readFront (Command.anywhere ++ [.version]) none {} args with
  | .version => return .version
  | .command front name rest =>
      let (command, given) ← Command.parse name rest
      return .run command (given.value? .config <|> front.value? .config)

end LayerLint
