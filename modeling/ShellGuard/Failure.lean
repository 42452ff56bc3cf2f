import ShellGuard.ConfigError

/-!
# Failures — errors with the steps that they ended

A failure is a cause and the steps in which it arose, the outermost first.  Its message names the
steps and then the cause.
-/

namespace ShellGuard

inductive IoError
  | notFound
  | notDirectory
  | isDirectory
  | nameTooLong
  | nameHasNul
  /-- The bytes that were read are no UTF-8. -/
  | notText
  /-- Nothing can be written any more. -/
  | sinkClosed
  /-- Any other answer, in the words of the system. -/
  | other (text : Text)
  deriving DecidableEq, Repr

def IoError.message : IoError → Text
  | .notFound => "No such file or directory (os error 2)"
  | .notDirectory => "Not a directory (os error 20)"
  | .isDirectory => "Is a directory (os error 21)"
  | .nameTooLong => "File name too long (os error 36)"
  | .nameHasNul => "file name contained an unexpected NUL byte"
  | .notText => "stream did not contain valid UTF-8"
  | .sinkClosed => "sink closed"
  | .other text => text

inductive Cause
  | config (error : ConfigError)
  | io (error : IoError)
  | unknownTransform (name : Text)
  | unknownPolicy (name : Text)
  deriving DecidableEq, Repr

def Cause.message (wording : Wording) : Cause → Text
  | .config error => error.message wording
  | .io error => error.message
  | .unknownTransform name => .concat ["Unknown transform '", name, "'"]
  | .unknownPolicy name => .concat
    ["Policy '", name, "' not found. It is not a valid file path, and was not found in ",
      "expected locations."]

/-- A cause with the steps that it ended, the outermost first. -/
structure Failure where
  steps : List Text
  cause : Cause
  deriving DecidableEq, Repr

namespace Failure

def ofCause (cause : Cause) : Failure := ⟨[], cause⟩

def ofConfig (error : ConfigError) : Failure := ofCause (.config error)

def ofIo (error : IoError) : Failure := ofCause (.io error)

/-- The failure, seen from a step around it. -/
def within (step : Text) (f : Failure) : Failure :=
  { f with steps := step :: f.steps }

def message (wording : Wording) (f : Failure) : Text :=
  Text.joinWith ": " (f.steps ++ [f.cause.message wording])

end Failure

end ShellGuard
