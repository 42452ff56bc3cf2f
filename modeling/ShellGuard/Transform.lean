import ShellGuard.Escaping
import ShellGuard.Failure
import ShellGuard.Neutralizing
import ShellGuard.Policy.Basic
import ShellGuard.Quoting

/-!
# Transforms — the four ways to make a value safe

## Main definitions

* `TransformKind` — the four ways, by name.
* `Transform`, `Transform.build`, `Transform.run` — a transform that is ready to run.
-/

namespace ShellGuard

/-- A way to make a value safe. -/
inductive TransformKind
  | sanitize
  | quote
  | neutralize
  | escape
  deriving DecidableEq, Repr

namespace TransformKind

def all : List TransformKind :=
  [sanitize, quote, neutralize, escape]

def name : TransformKind → Text
  | sanitize => "sanitize"
  | quote => "quote"
  | neutralize => "neutralize"
  | escape => "escape"

def ofName? (name : Text) : Option TransformKind :=
  all.find? fun kind => kind.name = name

end TransformKind

/-- A transform that is ready to run. -/
inductive Transform
  | scrub (scrubber : Scrubber)
  | quote
  | neutralize
  | escape

namespace Transform

def kind : Transform → TransformKind
  | scrub _ => .sanitize
  | quote => .quote
  | neutralize => .neutralize
  | escape => .escape

/-- The transform of a kind; only scrubbing depends on the policy, and can fail for it. -/
def build (kind : TransformKind) (policy : Policy) : Except Failure Transform :=
  match kind with
  | .sanitize =>
    match policy.scrubber with
    | .ok scrubber => .ok (scrub scrubber)
    | .error e =>
      .error ((Failure.ofConfig e).within "Failed to build argument sanitizer from policy")
  | .quote => .ok quote
  | .neutralize => .ok neutralize
  | .escape => .ok escape

def run : Transform → Text → Outcome
  | scrub scrubber, value => scrubber.run value
  | quote, value => ShellGuard.quote value
  | neutralize, value => ShellGuard.neutralize value
  | escape, value => ShellGuard.escape value

/-- What the log says about a transformed value; only scrubbing has something to say. -/
def notes : Transform → (value : Text) → Outcome → List LogRecord
  | scrub scrubber, value, outcome => scrubber.notes value outcome
  | quote, _, _ => []
  | neutralize, _, _ => []
  | escape, _, _ => []

end Transform

end ShellGuard
