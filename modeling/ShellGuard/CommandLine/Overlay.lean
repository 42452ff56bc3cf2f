import ShellGuard.CommandLine.Request
import ShellGuard.Policy.Source

/-!
# Overlays — a policy with the differences that a command line asks for

## Main definitions

* `PolicyOptions.base` — the policy that is asked for.
* `PolicyOptions.overlay` — the policy with the differences.
* `PolicyOptions.resolveWith`, `PolicyOptions.resolve` — both, and the check that the result is
  usable; the switches are given, or those of the environment.
-/

namespace ShellGuard.PolicyOptions

/-- The policy that is asked for: that of a file, that of a name, or the standard one. -/
def base (o : PolicyOptions) (w : World) : Run Policy :=
  match o.config?, o.policy? with
  | some path, _ => Policy.load w path
  | none, some name =>
    (Policy.loadNamed w name).within (.concat ["Failed to load policy '", name, "'"])
  | none, none => Policy.loadStandard

def conventionOver (o : PolicyOptions) (p : Policy) : Except Failure EscapeConvention :=
  match o.convention? with
  | none => .ok p.convention
  | some name =>
    match EscapeConvention.ofName? name with
    | some convention => .ok convention
    | none =>
      .error ((Failure.ofConfig (.unknownConvention name)).within
        (.concat ["Invalid --escape-mode '", name, "'"]))

def patternOver (o : PolicyOptions) (p : Policy) : Except Failure (Option PatternRule) :=
  match o.pattern? with
  | none => .ok p.pattern?
  | some literal =>
    match PatternRule.ofLiteral literal with
    | .ok rule => .ok (some rule)
    | .error error =>
      .error ((Failure.ofConfig error).within (.concat ["Invalid --pattern '", literal, "'"]))

/-- The reporting of the policy with what is asked for; a feature asks for records, too. -/
def reportingOver (o : PolicyOptions) (r : Reporting) : Reporting :=
  { r with
    enforcement := if o.audit then .audit else r.enforcement
    collect := r.collect || o.feature?.isSome
    feature? := o.feature? <|> r.feature? }

def overlay (o : PolicyOptions) (s : Switches) (p : Policy) : Except Failure Policy := do
  let convention ← o.conventionOver p
  let pattern? ← o.patternOver p
  return {
    convention
    marker? := o.marker? <|> p.marker?
    pattern?
    reporting := (o.reportingOver p.reporting).withSwitches s }

def checked (p : Policy) : Except Failure Policy :=
  match p.check with
  | .ok () => .ok p
  | .error error => .error ((Failure.ofConfig error).within "Invalid sanitizer configuration")

/-- The policy that a command line asks for, under given switches. -/
def resolveWith (o : PolicyOptions) (s : Switches) (w : World) : Run Policy := do
  let base ← o.base w
  let policy ← .ofExcept (o.overlay s base >>= checked)
  .log [.debug "Resolved policy: ..."]
  return policy

def resolve (o : PolicyOptions) (w : World) : Run Policy :=
  o.resolveWith (.ofEnvironment w.environment) w

end ShellGuard.PolicyOptions
