import ShellGuard.Json.Codec
import ShellGuard.Logging
import ShellGuard.System.Device

/-!
# Reports — what is said and published about altered arguments

A record is published as a command on a line of its own, which the agent of a pipeline picks up from
the output.

## Main definitions

* `Record.command` — the command that publishes a record.
* `Report`, `reportTo` — the arguments to use, and what is written and logged about them.
* `report` — the same for a place that takes everything or nothing.
-/

namespace ShellGuard

/-- The text as the value of a property, which semicolons, brackets and line breaks would end. -/
def propertyValue (t : Text) : Text :=
  t.filter fun c => c ≠ ';' && c ≠ ']' && c ≠ '\r' && c ≠ '\n'

namespace Record

/-- What a command says about the record: the total in front of the symbols. -/
def commandBody (r : Record) : Json :=
  .object
    [Json.field "removedSymbolsCount" (.natural r.total),
     Json.field "removedSymbols" r.counts.toJson]

def command (r : Record) (area feature : Text) : Text :=
  .concat
    ["##vso[telemetry.publish area=", propertyValue area, ";feature=", propertyValue feature, "]",
      r.commandBody.render]

end Record

structure Report where
  /-- The arguments, unless something could not be published. -/
  result : Except IoError Text
  /-- What got there of the line that is published. -/
  published : Text
  logs : List LogRecord

namespace Reporting

/-- The command that is published for a record, if the settings ask for it and name a feature. -/
def command? (r : Reporting) (record : Record) : Option Text :=
  match r.feature? with
  | some feature =>
    if r.collect ∧ feature ≠ [] then some (record.command r.area feature) else none
  | none => none

def warnings (r : Reporting) (record : Record) (altered : Text) : List LogRecord :=
  if r.warn then
    [.warning (.concat
      ["Detected ", .ofNat record.total, " unsupported symbol(s) in the task arguments. ",
        "Sanitized arguments: ", altered])]
  else []

/-- What the log says where a record should be published and has no feature. -/
def complaints (r : Reporting) (record : Record) : List LogRecord :=
  if r.collect ∧ (r.command? record).isNone then
    [.debug (.concat
      ["Telemetry collection is enabled but no telemetry feature is configured; ",
        "skipping publish."])]
  else []

def choose (r : Reporting) (arguments altered : Text) : Text :=
  match r.enforcement with
  | .enforce => altered
  | .audit => arguments

def choiceNotes (r : Reporting) : List LogRecord :=
  match r.enforcement with
  | .enforce => []
  | .audit => [.debug "Audit mode: keeping the original arguments."]

end Reporting

/--
The report on arguments and what became of them, published to a device.  Nothing is said or
published about arguments that were not altered.
-/
def reportTo (sink : Device) (reporting : Reporting) (arguments : Text) (outcome : Outcome) :
    Report :=
  match outcome.record? with
  | none => ⟨.ok outcome.text, [], []⟩
  | some record =>
    let warnings := reporting.warnings record outcome.text
    let rest := reporting.complaints record ++ reporting.choiceNotes
    let arguments := reporting.choose arguments outcome.text
    match reporting.command? record with
    | none => ⟨.ok arguments, [], warnings ++ rest⟩
    | some command =>
      let line := command ++ ['\n']
      match sink line with
      | .taken => ⟨.ok arguments, line, warnings ++ rest⟩
      | .refused count error => ⟨.error error, line.take count, warnings⟩

/-- The report for a place that takes everything, or nothing any more, with `closed?` as answer. -/
def report (closed? : Option IoError) (reporting : Reporting) (arguments : Text)
    (outcome : Outcome) : Report :=
  reportTo (closed?.elim .taking .refusing) reporting arguments outcome

end ShellGuard
