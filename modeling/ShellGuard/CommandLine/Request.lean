import ShellGuard.System.Path
import ShellGuard.Transform

/-!
# Requests — what a command line asks for

## Main definitions

* `IoOptions` — where a value comes from, and how the result is shown.
* `PolicyOptions` — which policy is used, and what is different from it.
* `Request` — a whole command line.
-/

namespace ShellGuard

/-- Where a value comes from, and how the result is shown. -/
structure IoOptions where
  value? : Option Text := none
  inputFile? : Option Path := none
  outputFile? : Option Path := none
  json : Bool := false
  summary : Bool := false
  deriving DecidableEq, Repr

/-- Which policy is used, and what is different from it. -/
structure PolicyOptions where
  config? : Option Path := none
  policy? : Option Text := none
  convention? : Option Text := none
  pattern? : Option Text := none
  marker? : Option Text := none
  feature? : Option Text := none
  audit : Bool := false
  deriving DecidableEq, Repr

inductive Command
  | sanitize (options : PolicyOptions)
  | quote
  | neutralize
  | escape
  deriving DecidableEq, Repr

def Command.kind : Command → TransformKind
  | .sanitize _ => .sanitize
  | .quote => .quote
  | .neutralize => .neutralize
  | .escape => .escape

/-- What a command line asks for. -/
structure Request where
  quiet : Bool
  debug : Bool
  command : Command
  io : IoOptions
  deriving DecidableEq, Repr

end ShellGuard
