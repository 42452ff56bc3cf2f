import ShellGuard.Policy.Reporting
import ShellGuard.System.Path
import ShellGuard.Text.Utf8

/-!
# Environment files — variables that a file adds to the environment

Every line sets a variable, unless it is empty or a comment.  A value may be quoted, go over several
lines, and use variables that are set already.  A variable that is set stays as it is, and the first
line that breaks a rule ends the file.

## Main definitions

* `EnvironmentFile.searchPaths` — where files are looked for.
* `EnvironmentFile.lines` — the lines of a file, of which quotes may hold several together.
* `EnvironmentFile.readValue?`, `EnvironmentFile.readLine?` — what a line sets.
* `Environment.extend` — the environment with the variables of a file.
-/

namespace ShellGuard

namespace EnvironmentFile

/-! ## Places -/

def fileName : Text := ".env"

/-- The paths of environment files for a directory: its own, then those of the ones around it. -/
def searchPaths (directory : Path) : List Path :=
  let names := Path.names directory
  (List.range (names.length + 1)).reverse.map fun count =>
    ((names.take count).flatMap ('/' :: ·)) ++ '/' :: fileName

/-! ## Lines -/

/-- Where in a value a character stands. -/
inductive LineState
  | plain
  | escaped
  | quoted
  | quotedEscaped
  | doubleQuoted
  | doubleQuotedEscaped
  /-- Behind a blank, where a comment may start. -/
  | blank
  deriving DecidableEq, Repr

/-- Where the next character stands; `none` if a comment starts here. -/
def LineState.next? (s : LineState) (c : Char) : Option LineState :=
  let opening : LineState :=
    if c = '\\' then .escaped
    else if c = '"' then .doubleQuoted
    else if c = '\'' then .quoted
    else .plain
  match s with
  | .plain =>
    some (if isBlank c && c ≠ '\n' && c ≠ '\r' then .blank else opening)
  | .blank => if c = '#' then none else some opening
  | .escaped => some .plain
  | .quoted => some (if c = '\\' then .quotedEscaped else if c = '\'' then .plain else .quoted)
  | .quotedEscaped => some .quoted
  | .doubleQuoted =>
    some (if c = '\\' then .doubleQuotedEscaped else if c = '"' then .plain else .doubleQuoted)
  | .doubleQuotedEscaped => some .doubleQuoted

inductive LineEnd
  /-- The next line belongs to it, unless it ends outside of quotes. -/
  | inside (s : LineState)
  /-- A comment starts behind `kept`. -/
  | comment (kept : Text)
  deriving DecidableEq, Repr

/-- How a line ends that starts in state `s`; `read` is what is read of it, the last first. -/
def lineEnd : (s : LineState) → (read : Text) → Text → LineEnd
  | s, _, [] => .inside s
  | s, read, c :: t =>
    match s.next? c with
    | some s => lineEnd s (c :: read) t
    | none => .comment read.reverse

/-- The lines of a text with the line feeds that end them. -/
def rawLines (t : Text) : List Text :=
  go [] t
where
  /-- The lines of a text behind the line read so far, the last character first. -/
  go : Text → Text → List Text
    | [], [] => []
    | read, [] => [read.reverse]
    | read, c :: t => if c = '\n' then (c :: read).reverse :: go [] t else go (c :: read) t

/-- Does a comment start behind the blanks in front? -/
def isComment (line : Text) : Bool :=
  (line.dropWhile isBlank).head? = some '#'

/--
The lines of a file, where quotes hold several together; `none` stands for an end inside of one.
`pending` is the line so far, which ends in state `s`.
-/
def joinLines : (s : LineState) → (pending : Text) → (rawLines : List Text) → List (Option Text)
  | s, _, [] => if s = .plain then [] else [none]
  | s, pending, line :: lines =>
    let whole := pending ++ line
    if isComment whole then some [] :: joinLines .plain [] lines
    else
      match lineEnd s [] line with
      | .comment kept => some (pending ++ kept) :: joinLines .plain [] lines
      | .inside .plain => some whole.dropLineEnd :: joinLines .plain [] lines
      -- Inside quotes, the line goes on.
      | .inside s => joinLines s whole lines

/-- The lines of a file.  A line with octets that are no text counts as one that breaks a rule. -/
def lines (content : Decoded) : List (Option Text) :=
  let raw := rawLines content.text
  if content.complete then joinLines .plain [] raw
  else
    -- The line in which the octets stop being text is not read at all.
    let whole := if content.text.getLast? = some '\n' then raw else raw.dropLast
    joinLines .plain [] whole ++ [none]

/-! ## Values -/

/-- How a variable is used: by its name, or by its name in braces. -/
inductive Usage
  | bare
  | braced
  deriving DecidableEq, Repr

structure ValueState where
  /-- The value so far, the last character first. -/
  read : Text := []
  inQuotes : Bool := false
  inDoubleQuotes : Bool := false
  escaped : Bool := false
  /-- Is the value over, so that only a comment can follow? -/
  ended : Bool := false
  /-- The use of a variable that is being read, with the name so far, the last character first. -/
  usage? : Option (Usage × Text) := none
  deriving DecidableEq, Repr

namespace ValueState

def push (s : ValueState) (c : Char) : ValueState :=
  { s with read := c :: s.read }

/-- The state with the value of a variable, which is empty if it is not set. -/
def use (s : ValueState) (environment : Environment) (name : Text) : ValueState :=
  { s with usage? := none, read := ((environment name.reverse).getD []).reverse ++ s.read }

/-- The state behind a character of a variable's use that is neither letter nor digit. -/
def endUse (s : ValueState) (environment : Environment) (usage : Usage) (name : Text) (c : Char) :
    ValueState :=
  match usage with
  | .bare =>
    if c = '\x7b' ∧ name = [] then { s with usage? := some (.braced, []) }
    else if c = '$' then { s.use environment name with usage? := some (.bare, []) }
    else (s.use environment name).push c
  | .braced =>
    if c = '\x7d' then s.use environment name
    else { s with usage? := some (.braced, c :: name) }

def unescape? (c : Char) : Option Char :=
  if c = 'n' then some '\n'
  else if "\\'\"$ ".toList.contains c then some c
  else none

/-- The state behind a character; `none` for one that cannot stand there. -/
def next? (environment : Environment) (s : ValueState) (c : Char) : Option ValueState :=
  if s.ended then
    if c = ' ' ∨ c = '\t' then some s else none
  else if s.escaped then
    (unescape? c).map fun c => { s.push c with escaped := false }
  else if s.inQuotes then
    some (if c = '\'' then { s with inQuotes := false } else s.push c)
  else
    match s.usage? with
    | some (usage, name) =>
      -- A name goes on as long as there are letters and digits, also inside double quotes.
      if isAlphabetic c || isNumeric c then some { s with usage? := some (usage, c :: name) }
      else some (s.endUse environment usage name c)
    | none =>
      if c = '$' then some { s with usage? := some (.bare, []) }
      else if c = '\\' then some { s with escaped := true }
      else if c = '"' then some { s with inDoubleQuotes := !s.inDoubleQuotes }
      else if s.inDoubleQuotes then some (s.push c)
      else if c = '\'' then some { s with inQuotes := true }
      else if c = ' ' ∨ c = '\t' then some { s with ended := true }
      else some (s.push c)

/-- The value, if no quote and no brace is open. -/
def value? (environment : Environment) (s : ValueState) : Option Text :=
  if s.inQuotes || s.inDoubleQuotes then none
  else
    match s.usage? with
    | some (.braced, _) => none
    | some (.bare, name) => some (s.use environment name).read.reverse
    | none => some s.read.reverse

end ValueState

def readValue? (environment : Environment) (s : ValueState) : Text → Option Text
  | [] => s.value? environment
  | c :: t =>
    if s.ended && c = '#' then s.value? environment
    else (s.next? environment c).bind fun s => readValue? environment s t

def readName? (t : Text) : Option (Text × Text) :=
  if t.head?.any fun c => c.isAlpha || c = '_' then
    some (t.span fun c => c.isAlphanum || c = '_' || c = '.')
  else
    none

/-- The text behind an equals sign that may have blanks around it. -/
def readEquals? (t : Text) : Option Text :=
  match t.dropWhile isBlank with
  | '=' :: t => some (t.dropWhile isBlank)
  | _ => none

/-- The variable and the value behind it; the word `export` may stand in front. -/
def readSetting? (t : Text) : Option (Text × Text) := do
  let (name, behind) ← readName? t
  match readEquals? behind with
  | some value => return (name, value)
  | none =>
    if name = "export".toList then
      let (name, behind) ← readName? (behind.dropWhile isBlank)
      return (name, ← readEquals? behind)
    else
      none

inductive Setting
  | nothing
  | variable (name value : Text)
  deriving DecidableEq, Repr

def readLine? (environment : Environment) (line : Text) : Option Setting := do
  let t := ((line.reverse.dropWhile isBlank).reverse).dropWhile isBlank
  if t.isEmpty || t.head? = some '#' then return .nothing
  else
    let (name, value) ← readSetting? t
    if value.isEmpty || value.head? = some '#' then return .variable name []
    else return .variable name (← readValue? environment {} value)

end EnvironmentFile

namespace Environment

/-- The environment with a variable, unless it is set already. -/
def setNew (environment : Environment) (name value : Text) : Environment :=
  if (environment name).isSome then environment
  else fun n => if n = name then some value else environment n

/-- The environment with the variables of some lines, up to the first that breaks a rule. -/
def extendLines (environment : Environment) : List (Option Text) → Environment
  | [] => environment
  | none :: _ => environment
  | some line :: lines =>
    match EnvironmentFile.readLine? environment line with
    | none => environment
    | some .nothing => environment.extendLines lines
    | some (.variable name value) => (environment.setNew name value).extendLines lines

def extend (environment : Environment) (file : Decoded) : Environment :=
  let text := if file.text.head? = some '\ufeff' then file.text.drop 1 else file.text
  environment.extendLines (EnvironmentFile.lines { file with text })

end Environment

end ShellGuard
