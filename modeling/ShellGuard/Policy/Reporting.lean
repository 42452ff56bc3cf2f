import ShellGuard.Unicode.Named

/-!
# Reporting — what happens with the record of altered symbols

## Main definitions

* `Reporting` — the settings; `Enforcement` says whether the altered arguments are used at all.
* `Switches` — the three switches of the environment, and `Reporting.withSwitches`.
-/

namespace ShellGuard

/-- Are the altered arguments used, or only reported? -/
inductive Enforcement
  | enforce
  | audit
  deriving DecidableEq, Repr

namespace Enforcement

def name : Enforcement → Text
  | .enforce => "enforce"
  | .audit => "audit"

def ofName? (name : Text) : Option Enforcement :=
  [Enforcement.enforce, Enforcement.audit].find? fun e => e.name = name

end Enforcement

/-- The area under which records are published unless another is configured. -/
def defaultArea : Text :=
  ['T', 'a', 's', 'k', 'H', 'u', 'b']

/-- What happens with the record of altered symbols. -/
structure Reporting where
  enforcement : Enforcement := .enforce
  /-- Is there a warning when something was altered? -/
  warn : Bool := true
  /-- Is the record published when something was altered? -/
  collect : Bool := false
  area : Text := defaultArea
  /-- The feature under which records are published; without one nothing is. -/
  feature? : Option Text := none
  deriving DecidableEq, Repr

structure Switches where
  auditLog : Bool := false
  enforce : Bool := false
  telemetry : Bool := false
  deriving DecidableEq, Repr

abbrev Environment := Text → Option Text

namespace Switches

def auditLogVariable : Text := "ARGSAFE_ENABLE_AUDIT_LOG"

def enforceVariable : Text := "ARGSAFE_ENABLE_ENFORCE"

def telemetryVariable : Text := "ARGSAFE_ENABLE_TELEMETRY"

def trim (t : Text) : Text :=
  ((t.dropWhile isBlank).reverse.dropWhile isBlank).reverse

/-- Does a variable's value turn its switch on?  It is `true` in any case, or `1`. -/
def isOn (value : Text) : Bool :=
  (trim value).map Char.toLower = ['t', 'r', 'u', 'e'] || trim value = ['1']

def ofEnvironment (environment : Environment) : Switches where
  auditLog := (environment auditLogVariable).any isOn
  enforce := (environment enforceVariable).any isOn
  telemetry := (environment telemetryVariable).any isOn

end Switches

namespace Reporting

def fieldNames : List Text :=
  ["mode", "warn", "collect_telemetry", "telemetry_area", "telemetry_feature"]

/-- The settings with the switches of the environment, which only ever add to them. -/
def withSwitches (r : Reporting) (s : Switches) : Reporting :=
  { r with
    warn := r.warn || s.auditLog || s.enforce
    collect := r.collect || s.telemetry }

end Reporting

end ShellGuard
