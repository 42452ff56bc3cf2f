import ShellGuard.CommandLine.Request
import ShellGuard.Policy.Reporting

/-!
# The grammar of command lines — from words to a request

A command line names a command, with flags in front of the command and flags and a value behind it.
Words are read from left to right, and what is wrong first counts.  Which flags exclude each other
is looked at last, behind the command before in front of it.

## Main definitions

* `Flag`, `Level` — the flags, and where they may stand.
* `Stop` — why a command line is no request.
* `Request.ofWords` — the request of a command line.
-/

namespace ShellGuard

/-! ## Flags -/

inductive Flag
  | quiet
  | debug
  | help
  | version
  | json
  | summary
  | audit
  | inputFile
  | outputFile
  | config
  | policy
  | convention
  | pattern
  | marker
  | feature
  deriving DecidableEq, Repr

namespace Flag

def long : Flag → Text
  | quiet => "quiet"
  | debug => "debug"
  | help => "help"
  | version => "version"
  | json => "json"
  | summary => "summary"
  | audit => "audit"
  | inputFile => "input-file"
  | outputFile => "output"
  | config => "config"
  | policy => "policy"
  | convention => "escape-mode"
  | pattern => "pattern"
  | marker => "marker"
  | feature => "telemetry-feature"

def short? : Flag → Option Char
  | quiet => some 'q'
  | debug => some 'd'
  | help => some 'h'
  | version => some 'V'
  | summary => some 's'
  | inputFile => some 'i'
  | outputFile => some 'o'
  | _ => none

/-- Is the value of the flag a path, which cannot be empty? -/
def takesPath : Flag → Bool
  | inputFile | outputFile | config => true
  | _ => false

def takesValue : Flag → Bool
  | inputFile | outputFile | config | policy | convention | pattern | marker | feature => true
  | _ => false

end Flag

/-- Where a flag stands: in front of the command, or behind one. -/
inductive Level
  | top
  | sanitize
  | other
  deriving DecidableEq, Repr

namespace Level

/-- The flags that may stand behind every command. -/
def sharedFlags : List Flag :=
  [.quiet, .debug, .help, .json, .summary, .inputFile, .outputFile]

def flags : Level → List Flag
  | top => [.quiet, .debug, .help, .version]
  | other => sharedFlags
  | sanitize =>
    sharedFlags ++ [.audit, .config, .policy, .convention, .pattern, .marker, .feature]

def ofLong? (l : Level) (name : Text) : Option Flag :=
  l.flags.find? fun flag => flag.long = name

def ofShort? (l : Level) (letter : Char) : Option Flag :=
  l.flags.find? fun flag => flag.short? = some letter

def behind : TransformKind → Level
  | .sanitize => sanitize
  | _ => other

end Level

/-- Why a command line is no request. -/
inductive Stop
  | help
  | version
  | nothingGiven
  | missingCommand
  | unknownCommand
  | unknownArgument
  /-- A value is missing, or cannot be empty. -/
  | badValue
  /-- A value is given to a flag that has none. -/
  | spareValue
  /-- A flag is repeated, or excludes another. -/
  | conflict
  deriving DecidableEq, Repr

namespace Stop

/-- Was the command line understood? -/
def isAnswer : Stop → Bool
  | help | version => true
  | _ => false

def exitCode (s : Stop) : Nat :=
  if s.isAnswer then 0 else 2

def versionLine : Text := "argsafe 0.1.0\n"

def usage : Text :=
  "Usage: argsafe [OPTIONS] <sanitize|quote|neutralize|escape> [OPTIONS] [VALUE]\n"

def fault? : Stop → Option Text
  | help | version | nothingGiven => none
  | missingCommand => some "a command is missing"
  | unknownCommand => some "the command is unknown"
  | unknownArgument => some "there is an unknown argument"
  | badValue => some "a value is missing or empty"
  | spareValue => some "there is a value for a flag that has none"
  | conflict => some "flags are repeated, or exclude each other"

def text (s : Stop) : Text :=
  match s, s.fault? with
  | version, _ => versionLine
  | _, some fault => .concat ["error: ", fault, "\n\n", usage]
  | _, none => usage

end Stop

/-! ## Levels -/

/-- What is read of a level so far. -/
structure LevelReader where
  /-- The flags with their values, which are empty for flags without one. -/
  flags : List (Flag × Text) := []
  value? : Option Text := none
  /-- A flag whose value is ahead, or was the last word that was read. -/
  pending? : Option (Flag × Option Text) := none
  deriving DecidableEq, Repr

namespace LevelReader

def get? (r : LevelReader) (flag : Flag) : Option Text :=
  (r.flags.find? fun entry => entry.1 = flag).map Prod.snd

def has (r : LevelReader) (flag : Flag) : Bool :=
  (r.get? flag).isSome

def add (r : LevelReader) (flag : Flag) (value : Text) : Except Stop LevelReader :=
  if flag = .help then .error .help
  else if flag = .version then .error .version
  else if r.has flag then .error .conflict
  else if flag.takesPath ∧ value = [] then .error .badValue
  else .ok { r with flags := r.flags ++ [(flag, value)] }

/-- The reader without a pending flag. -/
def settle (r : LevelReader) : Except Stop LevelReader :=
  match r.pending? with
  | none => .ok r
  | some (_, none) => .error .badValue
  | some (flag, some value) => { r with pending? := none }.add flag value

/-- The reader behind a flag; a value may be attached to it. -/
def give (r : LevelReader) (flag : Flag) (attached? : Option Text) : Except Stop LevelReader := do
  let r ← r.settle
  match attached? with
  | some value => r.add flag value
  | none =>
    if flag.takesValue then return { r with pending? := some (flag, none) } else r.add flag []

/-- The reader behind a word of two hyphens and `t`. -/
def readLong (l : Level) (r : LevelReader) (t : Text) : Except Stop LevelReader :=
  let name := t.takeWhile (· ≠ '=')
  let attached? := (t.drop name.length).tail?
  match l.ofLong? name with
  | none => .error .unknownArgument
  | some flag =>
    if attached?.isSome ∧ ¬ flag.takesValue then .error .spareValue else r.give flag attached?

/-- The reader behind the letters of a word with one hyphen; the last may have a value attached. -/
def readLetters (l : Level) : LevelReader → Text → Except Stop LevelReader
  | r, [] => .ok r
  | r, c :: t =>
    match l.ofShort? c with
    | none => .error .unknownArgument
    | some flag =>
      if flag.takesValue then
        match t with
        | [] => r.give flag none
        -- The sign between a letter and its value is no part of the value.
        | '=' :: value => r.give flag (some value)
        | value => r.give flag (some value)
      else do readLetters l (← r.give flag none) t

def readValue (r : LevelReader) (word : Text) : Except Stop LevelReader := do
  if r.value?.isSome then throw .unknownArgument
  else return { ← r.settle with value? := some word }

/-- The reader behind a word that does not end the flags. -/
def readWord (l : Level) (r : LevelReader) (word : Text) : Except Stop LevelReader :=
  match word with
  | '-' :: '-' :: t => r.readLong l t
  | '-' :: c :: t => r.readLetters l (c :: t)
  | _ =>
    match r.pending? with
    -- Only a value that starts with a hyphen has to be attached to its flag.
    | some (flag, none) => .ok { r with pending? := some (flag, some word) }
    | _ => r.readValue word

/-- The word behind which there are no more flags. -/
def flagsEnd : Text := ['-', '-']

def readWords (l : Level) : LevelReader → List Text → Except Stop LevelReader
  | r, [] => r.settle
  | r, word :: words =>
    if word = flagsEnd then do (← words.foldlM readValue r).settle
    else do readWords l (← r.readWord l word) words

/-- The reader, unless flags in it exclude each other. -/
def check (r : LevelReader) : Except Stop LevelReader :=
  if (r.has .quiet && r.has .debug) || (r.has .inputFile && r.value?.isSome) ||
      (r.has .config && r.has .policy) then
    .error .conflict
  else
    .ok r

end LevelReader

/-! ## Command lines -/

/-- The variable for the feature, where no flag names one. -/
def featureVariable : Text := "ARGSAFE_TELEMETRY_FEATURE"

namespace Request

def helpCommand : Text := ['h', 'e', 'l', 'p']

def isCommand (word : Text) : Bool :=
  word = helpCommand || (TransformKind.ofName? word).isSome

/-- The answer to the command for help and the words behind it, which may name one command. -/
def helpStop (words : List Text) : Stop :=
  match words with
  | [] => .help
  | [word] => if isCommand word then .help else .unknownCommand
  | _ => .unknownCommand

def commandOf (environment : Environment) (kind : TransformKind) (r : LevelReader) : Command :=
  match kind with
  | .sanitize => .sanitize {
      config? := r.get? .config
      policy? := r.get? .policy
      convention? := r.get? .convention
      pattern? := r.get? .pattern
      marker? := r.get? .marker
      feature? := r.get? .feature <|> environment featureVariable
      audit := r.has .audit }
  | .quote => .quote
  | .neutralize => .neutralize
  | .escape => .escape

/-- The request with what is read in front of its command and behind it. -/
def ofLevels (environment : Environment) (kind : TransformKind) (top behind : LevelReader) :
    Request where
  quiet := top.has .quiet || behind.has .quiet
  debug := top.has .debug || behind.has .debug
  command := commandOf environment kind behind
  io := {
    value? := behind.value?
    inputFile? := behind.get? .inputFile
    outputFile? := behind.get? .outputFile
    json := behind.has .json
    summary := behind.has .summary }

def endWithoutCommand (top : LevelReader) : Stop :=
  if top.flags = [] then .nothingGiven else .missingCommand

/-- The request of the words behind what is read of the top level. -/
def readTop (environment : Environment) (top : LevelReader) : List Text → Except Stop Request
  | [] => .error (endWithoutCommand top)
  | word :: words =>
    match TransformKind.ofName? word with
    | some kind => do
      let behind ← LevelReader.readWords (Level.behind kind) {} words
      -- Flags may exclude each other only where they stand together.
      let behind ← behind.check
      return ofLevels environment kind (← top.check) behind
    | none =>
      if word = helpCommand then .error (helpStop words)
      else if word = LevelReader.flagsEnd then
        match words with
        | [] => .error (endWithoutCommand top)
        | word :: _ => .error (if isCommand word then .unknownArgument else .unknownCommand)
      else
        match word with
        | '-' :: _ :: _ => do readTop environment (← top.readWord .top word) words
        | _ => .error .unknownCommand

def ofWords (environment : Environment) (words : List Text) : Except Stop Request :=
  readTop environment {} words

end Request

end ShellGuard
