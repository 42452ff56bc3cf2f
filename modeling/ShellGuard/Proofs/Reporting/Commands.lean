import ShellGuard.Proofs.Json.Forms
import ShellGuard.Report

/-!
# Commands — what an agent reads of a published record

An agent reads commands line by line: a sign, properties with semicolons between them up to the
first closing bracket, and the body behind it.  Area and feature are stripped of everything that
ends a property, and the body is JSON, which escapes line breaks.  So whatever the symbols, the area
and the feature hold, a command is one line with two properties, and its body says the record.

## Main definitions

* `LoggingCommand`, `LoggingCommand.read?` — a command as an agent reads it.
* `Record.properties` — the properties of a command; `Record.propertyEnds` must not stand in them.

## Main statements

* `Record.lineBreak_not_mem_command` — a command is one line.
* `Record.ofDocument?_render_commandBody` — the body of a command says the record.
* `Record.read?_command` — what an agent reads of a command.
-/

namespace ShellGuard

/-- A command as an agent reads it. -/
structure LoggingCommand where
  properties : List Text
  body : Text
  deriving DecidableEq, Repr

namespace LoggingCommand

/-- The sign that a line is a command. -/
def sign : Text :=
  ['#', '#', 'v', 's', 'o', '[']

/-- The command of a line: its properties stand in front of the first closing bracket. -/
def read? (line : Text) : Option LoggingCommand := do
  let t ← Text.dropLead? sign line
  let header := t.takeWhile fun c => c ≠ ']'
  match t.drop header.length with
  | ']' :: body => return ⟨header.splitOn ';', body⟩
  | _ => none

/-- Properties without brackets and semicolons are read as they are, and the body is the rest. -/
theorem read?_joinWith {properties : List Text} (hne : properties ≠ [])
    (hproperties : ∀ property ∈ properties, ']' ∉ property ∧ ';' ∉ property) (body : Text) :
    read? (sign ++ Text.joinWith [';'] properties ++ ']' :: body) = some ⟨properties, body⟩ := by
  have hheader : ∀ c ∈ Text.joinWith [';'] properties, c ≠ ']' := by
    rintro c hc rfl
    rcases mem_intercalate hc with hsemicolon | ⟨property, hproperty, hmem⟩
    · exact absurd hsemicolon (by decide)
    · exact (hproperties property hproperty).1 hmem
  -- the first closing bracket is the one behind the properties
  have hstop : (Text.joinWith [';'] properties ++ ']' :: body).takeWhile
      (fun c => c ≠ ']') = Text.joinWith [';'] properties :=
    takeWhile_append_of_stop (by simpa using hheader) (by simp)
  have hsplit : (Text.joinWith [';'] properties).splitOn ';' = properties :=
    List.splitOn_intercalate ';' (fun property hproperty => (hproperties property hproperty).2) hne
  rw [List.append_assoc, read?, Text.dropLead?_append, Option.bind_eq_bind, Option.bind_some]
  dsimp only
  rw [hstop, List.drop_left, hsplit]
  rfl

end LoggingCommand

namespace Record

/-! ## The header -/

/-- What must not stand in a property, since it would end the property, the header or the line. -/
def propertyEnds : List Char :=
  [';', ']', '\r', '\n']

theorem propertyValue_eq_filter (t : Text) :
    propertyValue t = t.filter fun c => c ∉ propertyEnds := by
  refine List.filter_congr fun c _ => ?_
  simp [propertyEnds, Bool.and_assoc]

theorem not_mem_propertyValue {c : Char} (hc : c ∈ propertyEnds) (t : Text) :
    c ∉ propertyValue t := by
  rw [propertyValue_eq_filter]
  intro hmem
  have hnot := (List.mem_filter.1 hmem).2
  simp [hc] at hnot

def properties (area feature : Text) : List Text :=
  ["telemetry.publish area=".toList ++ propertyValue area,
    "feature=".toList ++ propertyValue feature]

theorem command_eq (r : Record) (area feature : Text) :
    r.command area feature =
      LoggingCommand.sign ++ Text.joinWith [';'] (properties area feature) ++
        ']' :: r.commandBody.render := by
  simp [command, Text.concat, properties, LoggingCommand.sign]

theorem not_mem_properties {c : Char} (hc : c ∈ propertyEnds) {area feature property : Text}
    (hproperty : property ∈ properties area feature) : c ∉ property := by
  have hnames : c ∉ "telemetry.publish area=".toList ∧ c ∉ "feature=".toList := by
    simp only [propertyEnds, List.mem_cons, List.not_mem_nil, or_false] at hc
    rcases hc with rfl | rfl | rfl | rfl <;> decide
  obtain ⟨harea, hfeature⟩ := hnames
  rcases List.mem_cons.1 hproperty with rfl | hproperty
  · exact List.not_mem_append harea (not_mem_propertyValue hc area)
  · rw [List.mem_singleton.1 hproperty]
    exact List.not_mem_append hfeature (not_mem_propertyValue hc feature)

/-! ## The body -/

theorem plain_commandBody (r : Record) : r.commandBody.Plain :=
  ⟨rfl, trivial, rfl, SymbolCounts.plainFields_entries r.counts.entries, trivial⟩

/-- The body says the total, and the count of every symbol. -/
theorem ofDocument?_render_commandBody (r : Record) :
    Json.ofDocument? r.commandBody.render = some (.object
      [(some "removedSymbolsCount".toList, .natural r.total),
        (some "removedSymbols".toList,
          .object (r.counts.entries.map fun e => (some e.1, .natural e.2)))]) :=
  Json.ofDocument?_render r.plain_commandBody

/-! ## Commands -/

/-- A command is one line, whatever it says. -/
theorem lineBreak_not_mem_command (r : Record) (area feature : Text) {c : Char}
    (hc : c = '\r' ∨ c = '\n') : c ∉ r.command area feature := by
  have hends : c ∈ propertyEnds := by
    rcases hc with rfl | rfl <;> decide
  have hsign : c ∉ LoggingCommand.sign := by
    rcases hc with rfl | rfl <;> decide
  have hbracket : c ≠ ']' := by
    rcases hc with rfl | rfl <;> decide
  -- line breaks are controls, and JSON escapes all of them
  have hbody : c ∉ r.commandBody.render := by
    intro hmem
    have hlow := Json.controlFree_render r.plain_commandBody c hmem
    rcases hc with rfl | rfl <;> exact absurd hlow (by decide)
  have hheader : c ∉ Text.joinWith [';'] (properties area feature) := by
    intro hmem
    rcases mem_intercalate hmem with hsemicolon | ⟨property, hproperty, hmem⟩
    · rcases hc with rfl | rfl <;> exact absurd hsemicolon (by decide)
    · exact not_mem_properties hends hproperty hmem
  rw [command_eq]
  exact List.not_mem_append (List.not_mem_append hsign hheader)
    (List.not_mem_cons_of_ne_of_not_mem hbracket hbody)

/--
A command is one line, of which an agent reads exactly the area and the feature without what could
end a property; the body behind them is a document that says exactly the total and the counts.
-/
theorem read?_command (r : Record) (area feature : Text) :
    '\r' ∉ r.command area feature ∧ '\n' ∉ r.command area feature ∧
      ∃ body,
        LoggingCommand.read? (r.command area feature) = some
          ⟨["telemetry.publish area=".toList ++ area.filter fun c => c ∉ [';', ']', '\r', '\n'],
            "feature=".toList ++ feature.filter fun c => c ∉ [';', ']', '\r', '\n']], body⟩ ∧
        Json.ofDocument? body = some (.object
          [(some "removedSymbolsCount".toList, .natural r.total),
            (some "removedSymbols".toList,
              .object (r.counts.entries.map fun e => (some e.1, .natural e.2)))]) := by
  refine ⟨r.lineBreak_not_mem_command area feature (.inl rfl),
    r.lineBreak_not_mem_command area feature (.inr rfl), r.commandBody.render, ?_,
    r.ofDocument?_render_commandBody⟩
  have hproperties : ∀ property ∈ properties area feature, ']' ∉ property ∧ ';' ∉ property :=
    fun property hproperty => ⟨not_mem_properties (by decide) hproperty,
      not_mem_properties (by decide) hproperty⟩
  have hne : properties area feature ≠ [] := List.cons_ne_nil _ _
  rw [command_eq, LoggingCommand.read?_joinWith hne hproperties, properties,
    propertyValue_eq_filter, propertyValue_eq_filter]
  rfl

end Record

end ShellGuard
