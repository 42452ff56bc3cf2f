import ShellGuard.Policy.Basic
import ShellGuard.Yaml.Decode

/-!
# Policy documents — policies as they are written in files

## Main definitions

* `Policy.ofDocument?` — the policy that a document describes.
* `Policy.ofText` — the policy of a text; an empty text is the policy without any setting.
* `Policy.standard` — the policy that is used when none is asked for.
-/

namespace ShellGuard

open Yaml (Document Node decodeOr)

def PatternRule.ofNode? (d : Document) (node : Node) : Option PatternRule := do
  match ← d.fields? fieldNames node with
  | [pattern, reach, caseInsensitive, multiLine, dotMatchesNewLine] =>
    return {
      pattern := ← decodeOr [] d.text? pattern
      reach := ← decodeOr .every (fun node => d.variant? node >>= Reach.ofName?) reach
      caseInsensitive := ← decodeOr false d.flag? caseInsensitive
      multiLine := ← decodeOr false d.flag? multiLine
      dotMatchesNewLine := ← decodeOr false d.flag? dotMatchesNewLine }
  | _ => none

def Reporting.ofNode? (d : Document) (node : Node) : Option Reporting := do
  match ← d.fields? fieldNames node with
  | [mode, warn, collect, area, feature] =>
    return {
      enforcement := ← decodeOr .enforce (fun node => d.variant? node >>= Enforcement.ofName?) mode
      warn := ← decodeOr true d.flag? warn
      collect := ← decodeOr false d.flag? collect
      area := ← decodeOr defaultArea d.text? area
      feature? := ← decodeOr none (d.optional? d.text?) feature }
  | _ => none

namespace Policy

def ofNode? (d : Document) (node : Node) : Option Policy := do
  match ← d.fields? fieldNames node with
  | [convention, marker, pattern, reporting] =>
    return {
      convention := ←
        decodeOr .backtick (fun node => d.text? node >>= EscapeConvention.ofName?) convention
      marker? := ← decodeOr none (d.optional? d.text?) marker
      pattern? := ← decodeOr none (d.optional? (PatternRule.ofNode? d)) pattern
      reporting := ← decodeOr {} (Reporting.ofNode? d) reporting }
  | _ => none

def ofDocument? (d : Document) : Option Policy :=
  ofNode? d d.root

/-- The policy of a text; an empty text is the policy without any setting. -/
def ofText (t : Text) : Except ConfigError Policy :=
  match Document.ofText? t with
  | .error fault => .error (.badPolicy fault)
  | .ok none => .ok {}
  | .ok (some d) =>
    match ofDocument? d with
    | some policy => .ok policy
    | none => .error (.badPolicy .mismatched)

/-- The document that comes with the program. -/
def standardText : Text := .concat
  ["# Default argsafe policy.\n",
   "#\n",
   "# escape_mode selects the pair delimiter that marks an already-escaped\n",
   "# escape character in task arguments: \"\x60\x60\" for PowerShell-style backtick\n",
   "# escaping, \"\\\\\\\\\" for backslash escaping.\n",
   "escape_mode: \"\x60\x60\"\n",
   "replacement_marker: \"_#removed#_\"\n",
   "reporting:\n",
   "  mode: enforce\n",
   "  warn: true\n",
   "  collect_telemetry: false\n",
   "  telemetry_area: TaskHub\n"]

/-- The policy that is used when none is asked for, which is that of the document. -/
def standard : Policy :=
  { marker? := some Marker.default }

example : (ofText standardText).toOption = some standard := by decide +kernel

end Policy

end ShellGuard
