import LayerLint.Disk

/-!
# `VersionControl` — the lists of ignored names that version control keeps

Besides the ignore files among the project's own files, a repository keeps a list inside its `.git`
directory, and each user keeps one for all repositories.

## Contents
- **A repository's list.** `VersionControl.excludes?`. In a linked working tree `.git` is a file that
  leads to the list by way of two others; `VersionControl.brokenLink?` finds a way that ends early.
- **A user's list.** `VersionControl.userList?`: the file that a setting names, or the one at the usual
  place. `VersionControl.excludesSetting?` reads the setting.
-/

namespace LayerLint.VersionControl

/-! ## A repository's list -/

/-- The first line of a text without its end; the empty text has none. -/
def firstLine? (text : String) : Option String :=
  if text = "" then none
  else
    let line := text.toList.takeWhile (· != '\n')
    let ended := line.length < text.length
    some (String.ofList (if ended && line.getLast? = some '\r' then line.dropLast else line))

/-- A path seen from a directory. -/
def within (directory path : String) : String :=
  if Path.isAbsolute path then path else Path.join directory path

/-- The path of the list in the directory of a repository. -/
def listPath : String := "info/exclude"

/-- The directory that a `.git` file names. -/
def linkTarget? (link : String) : Option String := do
  let line ← firstLine? link
  if Text.startsWith line "gitdir: " then some (String.ofList (line.toList.drop 8)) else none

/-- The file that tells which directory the working trees of a repository share. -/
def sharedFile? (link : String) : Option String := (linkTarget? link).map (within · "commondir")

/-- The path of the list, given the text of the `.git` file and of the shared file; only a path that
starts with a point is seen from the named directory. -/
def linkedList? (link shared : String) : Option String := do
  let target ← linkTarget? link
  let named ← firstLine? shared
  let directory := if Text.startsWith named "." then within target named else named
  return within directory listPath

/-- The list of the repository whose top directory has the given entries. -/
def excludes? (d : Disk) (entries : List (String × Entry)) : Option String :=
  match entries.lookup ".git" with
  | none => none
  | some (.directory es) =>
      match (Entry.directory es).find? ["info", "exclude"] with
      | some (.file content) => some content
      | _ => none
  | some (.file link) => do
      let shared ← (d.read (← sharedFile? link)).toOption
      (d.read (← linkedList? link shared)).toOption

/-- The path of the shared file of a repository, if a directory stands where the file should be. -/
def brokenLink? (d : Disk) (entries : List (String × Entry)) : Option String :=
  match entries.lookup ".git" with
  | some (.file link) => do
      let shared ← sharedFile? link
      match d.read shared with
      | .error .isADirectory => some shared
      | _ => none
  | _ => none

/-! ## A user's list -/

/-- Blanks in a file of settings. -/
def isGap (c : Char) : Bool := c == ' ' || ('\t' ≤ c && c ≤ '\r')

/-- Only blanks stand before the end of the line. -/
def endsLine (s : List Char) : Bool :=
  match s.dropWhile fun c => isGap c && c != '\n' with
  | [] => true
  | c :: _ => c == '\n'

/-- The value of a setting at the start of a text: a run without blanks that ends the line, not
counting a double quote after it. -/
def bareValue? (s : List Char) : Option (List Char) :=
  let value := s.takeWhile (!isGap ·)
  let after := s.dropWhile (!isGap ·)
  let closed :=
    match after.dropWhile isGap with
    | '"' :: rest => endsLine rest
    | _ => false
  if value = [] then none
  else if value.getLast? = some '"' && 1 < value.length && endsLine after then some value.dropLast
  else if endsLine after || closed then some value
  else none

/-- The value of a setting after its equals sign: a double quote before it does not count, unless
there is no other value. -/
def value? (s : List Char) : Option (List Char) :=
  match s.dropWhile isGap with
  | '"' :: rest => bareValue? (rest.dropWhile isGap) <|> bareValue? ('"' :: rest)
  | rest => bareValue? rest

/-- The name of the setting. -/
def settingName : List Char := "excludesfile".toList

/-- The value of the setting, if a text starts with it. -/
def settingAt? (s : List Char) : Option (List Char) :=
  let s := s.dropWhile isGap
  if (s.take settingName.length).map Char.toLower != settingName then none
  else
    match (s.drop settingName.length).dropWhile isGap with
    | '=' :: rest => value? rest
    | _ => none

/-- What follows each line end of a text. -/
def lineTails : List Char → List (List Char)
  | [] => []
  | c :: rest => if c = '\n' then rest :: lineTails rest else lineTails rest

/-- The value of the setting in a file of settings, where `~` stands for the user's directory. -/
def excludesSetting? (home settings : String) : Option String :=
  let s := settings.toList
  ((s :: lineTails s).findSome? settingAt?).map fun value =>
    String.ofList (value.flatMap fun c => if c = '~' then home.toList else [c])

/-- The files of settings in a user's directory, those that come first winning. -/
def settingsFiles (home : String) : List String :=
  [Path.join home ".gitconfig", Path.join home ".config/git/config"]

/-- The path of a user's list. -/
def userListPath (d : Disk) (home : String) : String :=
  ((settingsFiles home).findSome? fun file =>
    (d.read file).toOption.bind (excludesSetting? home)).getD (Path.join home ".config/git/ignore")

/-- The list of the user with the given directory. -/
def userList? (d : Disk) (home : String) : Option String := (d.read (userListPath d home)).toOption

end LayerLint.VersionControl
