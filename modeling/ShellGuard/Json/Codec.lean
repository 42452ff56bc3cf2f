import ShellGuard.Json.Decode
import ShellGuard.Json.Reader
import ShellGuard.Transform

/-!
# JSON forms — how the values of the library are written as JSON, and read back

Each type has `toJson` and `ofJson?`.  Structures have their fields in a fixed order, and
symbols in the order of a record.

## Main definitions

* `Record.toJson`, `Outcome.toJson`, `Policy.toJson` and their inverses `ofJson?`.
* `Jsonable` — the types with a JSON form; `Jsonable.encode` and `Jsonable.decode?` go through text.
-/

namespace ShellGuard

/-! ## Records and outcomes -/

namespace SymbolCounts

/-- The counts as an object with the symbols as names. -/
def toJson (c : SymbolCounts) : Json :=
  .object (c.entries.map fun e => Json.field e.1 (.natural e.2))

/-- Adds the counts of some fields, of which later ones win. -/
def addFields? (c : SymbolCounts) : List (Option Text × Json) → Option SymbolCounts
  | [] => some c
  | (name, value) :: fields => do
    let symbol ← name
    let count ← value.count?
    addFields? (c.set symbol count) fields

def ofJson? : Json → Option SymbolCounts
  | .object fields => empty.addFields? fields
  | _ => none

end SymbolCounts

namespace Record

def toJson (r : Record) : Json :=
  .object
    [Json.field "removedSymbols" r.counts.toJson,
     Json.field "removedSymbolsCount" (.natural r.total)]

def ofJson? (j : Json) : Option Record := do
  match ← j.fields? .null ["removedSymbols", "removedSymbolsCount"] with
  | [some counts, some total] => return ⟨← SymbolCounts.ofJson? counts, ← total.count?⟩
  | _ => none

end Record

namespace Outcome

def toJson (o : Outcome) : Json :=
  .object
    [Json.field "sanitized" (.ofText o.text),
     Json.field "telemetry" (match o.record? with | some r => r.toJson | none => .null)]

/-- The record of a field that may be null. -/
def recordOfJson? : Json → Option (Option Record)
  | .null => some none
  | j => (Record.ofJson? j).map some

def ofJson? (j : Json) : Option Outcome := do
  match ← j.fields? .null ["sanitized", "telemetry"] with
  | [some text, record] => return ⟨← text.text?, ← Json.decodeOr none recordOfJson? record⟩
  | _ => none

end Outcome

/-! ## Names -/

namespace TransformKind

def toJson (kind : TransformKind) : Json := .ofText kind.name

def ofJson? (j : Json) : Option TransformKind := do ofName? (← j.variant?)

end TransformKind

namespace EscapeConvention

/-- The convention as its pair. -/
def toJson (convention : EscapeConvention) : Json := .ofText convention.pair

def ofJson? (j : Json) : Option EscapeConvention := do ofName? (← j.text?)

end EscapeConvention

namespace Reach

def toJson (reach : Reach) : Json := .ofText reach.name

def ofJson? (j : Json) : Option Reach := do ofName? (← j.variant?)

end Reach

namespace Enforcement

def toJson (e : Enforcement) : Json := .ofText e.name

def ofJson? (j : Json) : Option Enforcement := do ofName? (← j.variant?)

end Enforcement

/-! ## Policies -/

namespace PatternRule

def toJson (rule : PatternRule) : Json :=
  .object
    [Json.field "pattern" (.ofText rule.pattern),
     Json.field "scope" rule.reach.toJson,
     Json.field "case_insensitive" (.bool rule.caseInsensitive),
     Json.field "multi_line" (.bool rule.multiLine),
     Json.field "dot_matches_new_line" (.bool rule.dotMatchesNewLine)]

def ofJson? (j : Json) : Option PatternRule := do
  match ← j.fields? .default fieldNames with
  | [pattern, reach, caseInsensitive, multiLine, dotMatchesNewLine] =>
    return {
      pattern := ← Json.decodeOr [] Json.text? pattern
      reach := ← Json.decodeOr .every Reach.ofJson? reach
      caseInsensitive := ← Json.decodeOr false Json.flag? caseInsensitive
      multiLine := ← Json.decodeOr false Json.flag? multiLine
      dotMatchesNewLine := ← Json.decodeOr false Json.flag? dotMatchesNewLine }
  | _ => none

end PatternRule

namespace Reporting

def toJson (r : Reporting) : Json :=
  .object
    [Json.field "mode" r.enforcement.toJson,
     Json.field "warn" (.bool r.warn),
     Json.field "collect_telemetry" (.bool r.collect),
     Json.field "telemetry_area" (.ofText r.area),
     Json.field "telemetry_feature" (.ofText? r.feature?)]

def ofJson? (j : Json) : Option Reporting := do
  match ← j.fields? .default fieldNames with
  | [mode, warn, collect, area, feature] =>
    return {
      enforcement := ← Json.decodeOr .enforce Enforcement.ofJson? mode
      warn := ← Json.decodeOr true Json.flag? warn
      collect := ← Json.decodeOr false Json.flag? collect
      area := ← Json.decodeOr defaultArea Json.text? area
      feature? := ← Json.decodeOr none Json.optionalText? feature }
  | _ => none

end Reporting

namespace Policy

/-- The pattern of a field that may be null. -/
def patternOfJson? : Json → Option (Option PatternRule)
  | .null => some none
  | j => (PatternRule.ofJson? j).map some

def toJson (p : Policy) : Json :=
  .object
    [Json.field "escape_mode" p.convention.toJson,
     Json.field "replacement_marker" (.ofText? p.marker?),
     Json.field "custom_pattern" (match p.pattern? with | some rule => rule.toJson | none => .null),
     Json.field "reporting" p.reporting.toJson]

def ofJson? (j : Json) : Option Policy := do
  match ← j.fields? .default fieldNames with
  | [convention, marker, pattern, reporting] =>
    return {
      convention := ← Json.decodeOr .backtick EscapeConvention.ofJson? convention
      marker? := ← Json.decodeOr none Json.optionalText? marker
      pattern? := ← Json.decodeOr none patternOfJson? pattern
      reporting := ← Json.decodeOr {} Reporting.ofJson? reporting }
  | _ => none

end Policy

/-! ## Through text -/

/-- A type with a JSON form. -/
class Jsonable (α : Type) where
  toJson : α → Json
  ofJson? : Json → Option α

instance : Jsonable Record := ⟨Record.toJson, Record.ofJson?⟩
instance : Jsonable Outcome := ⟨Outcome.toJson, Outcome.ofJson?⟩
instance : Jsonable TransformKind := ⟨TransformKind.toJson, TransformKind.ofJson?⟩
instance : Jsonable EscapeConvention := ⟨EscapeConvention.toJson, EscapeConvention.ofJson?⟩
instance : Jsonable Reach := ⟨Reach.toJson, Reach.ofJson?⟩
instance : Jsonable Enforcement := ⟨Enforcement.toJson, Enforcement.ofJson?⟩
instance : Jsonable PatternRule := ⟨PatternRule.toJson, PatternRule.ofJson?⟩
instance : Jsonable Reporting := ⟨Reporting.toJson, Reporting.ofJson?⟩
instance : Jsonable Policy := ⟨Policy.toJson, Policy.ofJson?⟩

namespace Jsonable

def encode {α : Type} [Jsonable α] (value : α) : Text :=
  (toJson value).render

def decode? {α : Type} [Jsonable α] (t : Text) : Option α := do
  ofJson? (← Json.ofDocument? t)

end Jsonable

end ShellGuard
