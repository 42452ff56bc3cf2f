import ShellGuard.Text.Basic

/-!
# Log records — what the library says about its work
-/

namespace ShellGuard

/-- How important a record is, the most important first. -/
inductive LogLevel
  | warning
  | info
  | debug
  deriving DecidableEq, Repr

def LogLevel.word : LogLevel → Text
  | .warning => "WARN"
  | .info => "INFO"
  | .debug => "DEBUG"

structure LogRecord where
  level : LogLevel
  text : Text
  deriving DecidableEq, Repr

namespace LogRecord

def warning (text : Text) : LogRecord := ⟨.warning, text⟩

def info (text : Text) : LogRecord := ⟨.info, text⟩

def debug (text : Text) : LogRecord := ⟨.debug, text⟩

def line (r : LogRecord) : Text :=
  .concat [r.level.word, " ", r.text]

end LogRecord

/-- Which records are kept: none, warnings only, or all of them. -/
inductive Verbosity
  | silent
  | warnings
  | everything
  deriving DecidableEq, Repr

/-- The records that two switches keep; the one for details wins. -/
def Verbosity.ofSwitches (quiet debug : Bool) : Verbosity :=
  if debug then .everything else if quiet then .silent else .warnings

def Verbosity.keeps : Verbosity → LogLevel → Bool
  | .silent, _ => false
  | .warnings, level => level = .warning
  | .everything, _ => true

end ShellGuard
