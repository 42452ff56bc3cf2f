import ShellGuard.Proofs.Reporting.Guarding

/-!
# Features — when a published command names a feature

A record is published only if the settings name a feature.  The command does not carry the feature
as it is, but without everything that could end a property.  Of a feature that consists of such
characters alone nothing is left: it counts as a name when the settings are asked, and is no name
when the command is read.

## Main definitions

* `LoggingCommand.property?`, `LoggingCommand.feature?` — what an agent reads behind the name of a
  property.
* `Reporting.NamesFeature` — every command that is published under the settings names a feature.

## Main statements

* `Record.feature?_command` — the feature of a command is the one given, without what ends a
  property.
* `exists_due_of_published` — whatever is published is the line of a command that is due.
* `Reporting.namesFeature_iff` — the settings under which every command names a feature.
* `report_names_no_feature` — settings with a feature of which nothing is left.
-/

namespace ShellGuard

/-! ## The properties of a command -/

namespace LoggingCommand

/-- The value of the first property that is written under a name. -/
def property? (name : Text) (command : LoggingCommand) : Option Text :=
  command.properties.findSome? (Text.dropLead? (name ++ ['=']))

def feature? (line : Text) : Option Text :=
  (read? line).bind (property? ['f', 'e', 'a', 't', 'u', 'r', 'e'])

end LoggingCommand

namespace Record

/-- The feature of a command is the one that was given, without what could end a property. -/
theorem feature?_command (r : Record) (area feature : Text) :
    LoggingCommand.feature? (r.command area feature) = some (propertyValue feature) := by
  have hproperties : ∀ property ∈ properties area feature, ']' ∉ property ∧ ';' ∉ property := by
    intro property hproperty
    exact ⟨not_mem_properties (by decide) hproperty, not_mem_properties (by decide) hproperty⟩
  have hread : LoggingCommand.read? (r.command area feature) =
      some ⟨properties area feature, r.commandBody.render⟩ := by
    rw [command_eq]
    exact LoggingCommand.read?_joinWith (List.cons_ne_nil _ _) hproperties _
  -- the area is written under another name, which already begins with another letter
  rw [LoggingCommand.feature?, hread]
  rfl

theorem propertyValue_ne_nil_iff (t : Text) :
    propertyValue t ≠ [] ↔ ∃ c ∈ t, c ∉ propertyEnds := by
  rw [propertyValue_eq_filter, Ne, List.filter_eq_nil_iff]
  simp

end Record

/-! ## What is published -/

variable {reporting : Reporting} {outcome : Outcome} {arguments : Text} {closed? : Option IoError}

/-- Whatever is published is the line of a command that is due. -/
theorem exists_due_of_published
    (h : (report closed? reporting arguments outcome).published ≠ []) :
    ∃ line, Due reporting outcome line ∧
      (report closed? reporting arguments outcome).published = line ++ ['\n'] := by
  have hdue : ∃ line, Due reporting outcome line := by
    unfold report reportTo at h
    cases hrecord : outcome.record? with
    | none => simp [hrecord] at h
    | some record =>
      cases hcommand : reporting.command? record with
      | none => simp [hrecord, hcommand] at h
      | some line => exact ⟨line, due_iff.2 ⟨record, hrecord, hcommand⟩⟩
  obtain ⟨line, hdue⟩ := hdue
  have hpublished := (report_of_due hdue arguments closed?).2
  cases closed? with
  | none => exact ⟨line, hdue, hpublished⟩
  | some error => exact absurd hpublished h

namespace Reporting

/-- Does every command that is published under the settings name a feature? -/
def NamesFeature (r : Reporting) : Prop :=
  ∀ closed? arguments outcome, (report closed? r arguments outcome).published ≠ [] →
    ∃ line name, (report closed? r arguments outcome).published = line ++ ['\n'] ∧
      LoggingCommand.feature? line = some name ∧ name ≠ []

/--
Every command that is published names a feature, provided that the configured one, if records are
published and it is there at all, holds some character that may stand in a property.
-/
theorem namesFeature_iff (r : Reporting) :
    r.NamesFeature ↔
      (r.collect → ∀ feature, r.feature? = some feature → feature ≠ [] →
        ∃ c ∈ feature, c ∉ [';', ']', '\r', '\n']) := by
  constructor
  · intro hnames hcollect feature hfeature hne
    -- any record will do: its command is due, and so it is published
    let record : Record := ⟨.empty, 0⟩
    have hdue : Due r ⟨[], some record⟩ (record.command r.area feature) :=
      .command rfl hcollect hfeature hne
    have hpublished := (report_of_due hdue [] none).2
    have hsome : (report none r [] ⟨[], some record⟩).published ≠ [] := by
      rw [hpublished]
      exact List.append_ne_nil_of_right_ne_nil _ (List.cons_ne_nil _ _)
    obtain ⟨line, name, hline, hname, hnamed⟩ := hnames none [] ⟨[], some record⟩ hsome
    have heq : record.command r.area feature = line :=
      (List.append_inj' (hpublished.symm.trans hline) rfl).1
    rw [← heq, Record.feature?_command] at hname
    rw [← Option.some.inj hname] at hnamed
    exact (Record.propertyValue_ne_nil_iff feature).1 hnamed
  · intro hfeature closed? arguments outcome hpublished
    obtain ⟨line, hdue, hline⟩ := exists_due_of_published hpublished
    obtain @⟨record, feature, hrecord, hcollect, hgiven, hne⟩ := hdue
    have hleft := hfeature hcollect feature hgiven hne
    exact ⟨_, propertyValue feature, hline, record.feature?_command r.area feature,
      (Record.propertyValue_ne_nil_iff feature).2 hleft⟩

end Reporting

/-- A feature that is a semicolon: the record of a pipe is published, and names no feature. -/
theorem report_names_no_feature :
    ∃ s line, Scrubber.ofSettings {} = .ok s ∧
      (report none { collect := true, feature? := some [';'] } ['a', '|', 'b']
        (s.run ['a', '|', 'b'])).published = line ++ ['\n'] ∧
      LoggingCommand.feature? line = some [] := by
  obtain ⟨s, record, hs, hrecord⟩ : ∃ s record, Scrubber.ofSettings {} = .ok s ∧
      (s.run ['a', '|', 'b']).record? = some record := by
    refine ⟨⟨.backtick, Marker.default, none, rfl⟩, ⟨⟨[(['|'], 1)], ?_⟩, 1⟩, rfl, ?_⟩
    · exact List.pairwise_singleton _ _
    · decide +kernel
  let reporting : Reporting := { collect := true, feature? := some [';'] }
  have hdue : Due reporting (s.run ['a', '|', 'b']) (record.command defaultArea [';']) :=
    .command hrecord rfl rfl (List.cons_ne_nil _ _)
  exact ⟨s, _, hs, (report_of_due hdue ['a', '|', 'b'] none).2,
    record.feature?_command defaultArea [';']⟩

end ShellGuard
