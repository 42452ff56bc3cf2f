import ShellGuard.Policy.Reporting
import ShellGuard.Scrubbing.Scrubber

/-!
# Policies — how arguments are scrubbed, and what is reported about it

## Main definitions

* `Policy`, `Policy.settings` — a policy, and the scrubber settings in it.
* `Policy.scrubber` — the scrubber of a policy, if it describes one.
-/

namespace ShellGuard

/-- How arguments are scrubbed, and what is reported about it. -/
structure Policy where
  convention : EscapeConvention := .backtick
  marker? : Option Text := none
  pattern? : Option PatternRule := none
  reporting : Reporting := {}
  deriving DecidableEq, Repr

namespace Policy

/-- The names of the fields in documents, in order. -/
def fieldNames : List Text :=
  ["escape_mode", "replacement_marker", "custom_pattern", "reporting"]

/-- The scrubber settings; a policy without a marker means the default one. -/
def settings (p : Policy) : ScrubSettings where
  convention := p.convention
  marker := p.marker?.getD Marker.default
  pattern? := p.pattern?

def scrubber (p : Policy) : Except ConfigError Scrubber :=
  Scrubber.ofSettings p.settings

def check (p : Policy) : Except ConfigError Unit :=
  p.scrubber.map fun _ => ()

end Policy

end ShellGuard
