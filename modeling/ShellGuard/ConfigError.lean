import ShellGuard.Regex.Compile
import ShellGuard.Scrubbing.Marker
import ShellGuard.Yaml.Fault

/-!
# Configuration errors — what a task can get wrong

Untrusted input is never an error; the configuration can be one.  An error is a cause, and
`ConfigError.message` is the only place that puts it into words.  What a pattern or a document gets
wrong in detail is worded by a `Wording`, which the caller chooses.
-/

namespace ShellGuard

/-- Why a text is no pattern literal. -/
inductive LiteralFault
  | unclosed
  | unknownFlag (flag : Char)
  deriving DecidableEq, Repr

def LiteralFault.message : LiteralFault → Text
  | .unclosed => "missing closing '/'"
  | .unknownFlag flag => .concat ["unsupported flag '", [flag], "'"]

inductive ConfigError
  /-- A pattern that would replace its first match only. -/
  | partialPattern (pattern : Text)
  /-- A pattern that matches the empty text. -/
  | emptyMatch (pattern : Text)
  | badPattern (pattern : Text) (fault : Regex.Fault)
  /-- A pattern of more bytes than allowed. -/
  | longPattern (length limit : Nat)
  | badLiteral (literal : Text) (fault : LiteralFault)
  | unsafeMarker (marker : Text) (fault : Marker.Fault)
  | unknownConvention (name : Text)
  | badPolicy (fault : Yaml.Fault)
  deriving DecidableEq, Repr

/-- How the details of a fault are put into words. -/
structure Wording where
  regex : Regex.Fault → Text
  yaml : Yaml.Fault → Text

/-- The details in this library's own words. -/
def Wording.plain : Wording := ⟨Regex.Fault.message, Yaml.Fault.message⟩

def ConfigError.message (wording : Wording) : ConfigError → Text
  | .partialPattern pattern => .concat
    ["Custom sanitize pattern '", pattern, "' must replace every match (global scope); ",
      "a first-match-only pattern would leave later occurrences untouched"]
  | .emptyMatch pattern => .concat
    ["Custom sanitize pattern '", pattern, "' matches the empty string; ",
      "it would insert the marker between every character"]
  | .badPattern pattern fault => .concat
    ["Failed to compile sanitize pattern '", pattern, "': ", wording.regex fault]
  | .longPattern length limit => .concat
    ["Sanitize pattern length (", .ofNat length, ") exceeds maximum allowed (", .ofNat limit, ")"]
  | .badLiteral literal fault => .concat
    ["Invalid pattern literal '", literal, "': ", fault.message]
  | .unsafeMarker marker fault => .concat
    ["Replacement marker '", marker, "' is unsafe: ", fault.message]
  | .unknownConvention name => .concat
    ["Unknown escape mode '", name, "'; expected '``' (backtick) or '\\\\' (backslash)"]
  | .badPolicy fault => .concat
    ["Failed to parse policy configuration: ", wording.yaml fault]

end ShellGuard
