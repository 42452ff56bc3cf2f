import ShellGuard.Guard
import ShellGuard.Proofs.Reporting.Commands
import ShellGuard.Proofs.Runs
import ShellGuard.Proofs.Transforms

/-!
# Guarding — which arguments a task gets, and what is published about them

A task gets the scrubbed arguments, or in an audit its own.  Without a record there is no difference
between the two, since all that is scrubbed leaves one.  One command is published where one is due,
and nothing else; a place that takes nothing any more is noticed only then.

## Main definitions

* `Due` — the command that the settings ask for about an outcome.

## Main statements

* `reportTo_of_due`, `reportTo_of_not_due` — the two ways in which a report can go.
* `guardArguments_spec` — the arguments, what is published, and when publishing fails.
-/

namespace ShellGuard

/--
The command that is due about an outcome: something was altered, which is that there is a record,
the settings ask for records, and they name a feature that is not empty.
-/
inductive Due (reporting : Reporting) (outcome : Outcome) : Text → Prop
  | command {record : Record} {feature : Text} (hrecord : outcome.record? = some record)
      (hcollect : reporting.collect) (hfeature : reporting.feature? = some feature)
      (hne : feature ≠ []) : Due reporting outcome (record.command reporting.area feature)

variable {reporting : Reporting} {outcome : Outcome} {command arguments : Text}

/-! ## Reports -/

theorem Reporting.command?_eq_some_iff {record : Record} :
    reporting.command? record = some command ↔
      ∃ feature, reporting.collect ∧ reporting.feature? = some feature ∧ feature ≠ [] ∧
        record.command reporting.area feature = command := by
  unfold command?
  cases reporting.feature? with
  | none => simp
  | some feature =>
    rw [Option.ite_none_right_eq_some]
    constructor
    · rintro ⟨⟨hcollect, hne⟩, hcommand⟩
      exact ⟨feature, hcollect, rfl, hne, Option.some.inj hcommand⟩
    · rintro ⟨_, hcollect, ⟨⟩, hne, rfl⟩
      exact ⟨⟨hcollect, hne⟩, rfl⟩

/-- What is due is what the settings make of the record. -/
theorem due_iff :
    Due reporting outcome command ↔
      ∃ record, outcome.record? = some record ∧ reporting.command? record = some command := by
  constructor
  · rintro ⟨hrecord, hcollect, hfeature, hne⟩
    exact ⟨_, hrecord, Reporting.command?_eq_some_iff.2 ⟨_, hcollect, hfeature, hne, rfl⟩⟩
  · rintro ⟨record, hrecord, hcommand⟩
    obtain ⟨feature, hcollect, hfeature, hne, rfl⟩ := Reporting.command?_eq_some_iff.1 hcommand
    exact .command hrecord hcollect hfeature hne

/-- Where a command is due, it is up to the device whether it is published. -/
theorem reportTo_of_due (h : Due reporting outcome command) (arguments : Text) (sink : Device) :
    (reportTo sink reporting arguments outcome).result =
        (match sink (command ++ ['\n']) with
          | .taken => .ok (reporting.choose arguments outcome.text)
          | .refused _ error => .error error) ∧
      (reportTo sink reporting arguments outcome).published =
        (sink (command ++ ['\n'])).part (command ++ ['\n']) := by
  obtain ⟨record, hrecord, hcommand⟩ := due_iff.1 h
  unfold reportTo
  simp only [hrecord, hcommand]
  cases sink (command ++ ['\n']) <;> exact ⟨rfl, rfl⟩

/-- Where no command is due, nothing is published, whatever the device would say. -/
theorem reportTo_of_not_due (h : ∀ command, ¬ Due reporting outcome command)
    (hsame : outcome.record? = none → outcome.text = arguments) (sink : Device) :
    (reportTo sink reporting arguments outcome).result =
        .ok (reporting.choose arguments outcome.text) ∧
      (reportTo sink reporting arguments outcome).published = [] := by
  unfold reportTo
  cases hrecord : outcome.record? with
  | none =>
    -- both choices are the same text
    have hchoose : reporting.choose arguments outcome.text = outcome.text := by
      unfold Reporting.choose
      split
      · rfl
      · exact (hsame hrecord).symm
    exact ⟨by rw [hchoose], rfl⟩
  | some record =>
    have hcommand : reporting.command? record = none := by
      cases hcommand : reporting.command? record with
      | none => rfl
      | some command => exact absurd (due_iff.2 ⟨record, hrecord, hcommand⟩) (h command)
    constructor <;> simp only [hcommand]

/-- Where a command is due, it is published; where nothing is taken any more, that is the error. -/
theorem report_of_due (h : Due reporting outcome command) (arguments : Text)
    (closed? : Option IoError) :
    (report closed? reporting arguments outcome).result =
        (match closed? with
          | none => .ok (reporting.choose arguments outcome.text)
          | some error => .error error) ∧
      (report closed? reporting arguments outcome).published =
        (match closed? with
          | none => command ++ ['\n']
          | some _ => []) := by
  obtain ⟨hresult, hpublished⟩ := reportTo_of_due h arguments (closed?.elim .taking .refusing)
  cases closed? <;> exact ⟨hresult, hpublished⟩

/-- Where no command is due, nothing is published, and nobody notices that nothing is taken. -/
theorem report_of_not_due (h : ∀ command, ¬ Due reporting outcome command)
    (hsame : outcome.record? = none → outcome.text = arguments) (closed? : Option IoError) :
    (report closed? reporting arguments outcome).result =
        .ok (reporting.choose arguments outcome.text) ∧
      (report closed? reporting arguments outcome).published = [] :=
  reportTo_of_not_due h hsame _

/-! ## Arguments -/

variable {policy : Policy} {s : Scrubber}

/-- A call for arguments that can be scrubbed goes as its report does. -/
theorem guardArguments_of_scrubber (hs : policy.scrubber = .ok s) (closed? : Option IoError)
    (arguments : Text) :
    (guardArguments closed? policy arguments).result =
        (report closed? policy.reporting arguments (s.run arguments)).result.mapError
          (fun error => (Failure.ofIo error).within "Failed to publish sanitizer telemetry") ∧
      (guardArguments closed? policy arguments).trace.output =
        (report closed? policy.reporting arguments (s.run arguments)).published := by
  have hbuild : (Run.ofExcept (Transform.build .sanitize policy)).result = .ok (.scrub s) := by
    simp [Transform.build, hs]
  unfold guardArguments
  rw [Run.bind_of_ok hbuild]
  refine ⟨?_, rfl⟩
  change ((report closed? policy.reporting arguments (s.run arguments)).result.mapError
    Failure.ofIo).mapError (Failure.within "Failed to publish sanitizer telemetry") = _
  cases (report closed? policy.reporting arguments (s.run arguments)).result <;> rfl

theorem guardArguments_of_due (hs : policy.scrubber = .ok s)
    (h : Due policy.reporting (s.run arguments) command) :
    (guardArguments none policy arguments).result =
        .ok (policy.reporting.choose arguments (s.run arguments).text) ∧
      (guardArguments none policy arguments).trace.output = command ++ ['\n'] ∧
      ∀ error,
        (guardArguments (some error) policy arguments).result =
          .error ((Failure.ofIo error).within "Failed to publish sanitizer telemetry") ∧
        (guardArguments (some error) policy arguments).trace.output = [] := by
  obtain ⟨hresult, houtput⟩ := guardArguments_of_scrubber hs none arguments
  obtain ⟨hchosen, hpublished⟩ := report_of_due h arguments none
  refine ⟨by rw [hresult, hchosen]; rfl, houtput.trans hpublished, fun error => ?_⟩
  obtain ⟨hresult, houtput⟩ := guardArguments_of_scrubber hs (some error) arguments
  obtain ⟨hfailed, hpublished⟩ := report_of_due h arguments (some error)
  exact ⟨by rw [hresult, hfailed]; rfl, houtput.trans hpublished⟩

theorem guardArguments_of_not_due (hs : policy.scrubber = .ok s)
    (h : ∀ command, ¬ Due policy.reporting (s.run arguments) command) (closed? : Option IoError) :
    (guardArguments closed? policy arguments).result =
        .ok (policy.reporting.choose arguments (s.run arguments).text) ∧
      (guardArguments closed? policy arguments).trace.output = [] := by
  obtain ⟨hresult, houtput⟩ := guardArguments_of_scrubber hs closed? arguments
  obtain ⟨hchosen, hpublished⟩ :=
    report_of_not_due h (fun hnone => Scrubber.text_of_record?_eq_none hnone) closed?
  exact ⟨by rw [hresult, hchosen]; rfl, houtput.trans hpublished⟩

/--
A task gets its own arguments in an audit, and the scrubbed ones otherwise.  Where a command is
due, it is published as one line; where none is, nothing is.  With a place that takes nothing any
more, a task gets an error if a command is due, and the same arguments otherwise.
-/
theorem guardArguments_spec (hs : policy.scrubber = .ok s) (arguments : Text) :
    (policy.reporting.enforcement = .audit →
        (guardArguments none policy arguments).result = .ok arguments) ∧
      (policy.reporting.enforcement = .enforce →
        (guardArguments none policy arguments).result = .ok (s.run arguments).text) ∧
      (∀ command, Due policy.reporting (s.run arguments) command →
        (guardArguments none policy arguments).trace.output = command ++ ['\n'] ∧
          '\r' ∉ command ∧ '\n' ∉ command) ∧
      ((∀ command, ¬ Due policy.reporting (s.run arguments) command) →
        (guardArguments none policy arguments).trace.output = []) ∧
      ∀ error,
        ((∃ failure, (guardArguments (some error) policy arguments).result = .error failure) ↔
          ∃ command, Due policy.reporting (s.run arguments) command) ∧
        (∀ value, (guardArguments (some error) policy arguments).result = .ok value →
          (guardArguments none policy arguments).result = .ok value) ∧
        (guardArguments (some error) policy arguments).trace.output = [] := by
  have hchosen : (guardArguments none policy arguments).result =
      .ok (policy.reporting.choose arguments (s.run arguments).text) := by
    by_cases h : ∃ command, Due policy.reporting (s.run arguments) command
    · obtain ⟨command, hdue⟩ := h
      exact (guardArguments_of_due hs hdue).1
    · exact (guardArguments_of_not_due hs (not_exists.1 h) none).1
  refine ⟨?_, ?_, ?_, ?_, ?_⟩
  · intro haudit
    simp [hchosen, Reporting.choose, haudit]
  · intro henforce
    simp [hchosen, Reporting.choose, henforce]
  · intro command hdue
    refine ⟨(guardArguments_of_due hs hdue).2.1, ?_⟩
    obtain ⟨hrecord, hcollect, hfeature, hne⟩ := hdue
    exact ⟨Record.lineBreak_not_mem_command _ _ _ (.inl rfl),
      Record.lineBreak_not_mem_command _ _ _ (.inr rfl)⟩
  · intro hnot
    exact (guardArguments_of_not_due hs hnot none).2
  · intro error
    -- only a call that has a line to publish asks the sink at all
    by_cases h : ∃ command, Due policy.reporting (s.run arguments) command
    · obtain ⟨command, hdue⟩ := h
      obtain ⟨-, -, hclosed⟩ := guardArguments_of_due hs hdue
      obtain ⟨hfailed, houtput⟩ := hclosed error
      refine ⟨iff_of_true ⟨_, hfailed⟩ ⟨command, hdue⟩, fun value hvalue => ?_, houtput⟩
      rw [hfailed] at hvalue
      cases hvalue
    · obtain ⟨hresult, houtput⟩ :=
        guardArguments_of_not_due hs (not_exists.1 h) (some error)
      refine ⟨iff_of_false ?_ h, fun value hvalue => ?_, houtput⟩
      · rintro ⟨failure, hfailed⟩
        rw [hresult] at hfailed
        cases hfailed
      · rw [hchosen, ← hresult, hvalue]

/-- A policy for an audit that publishes what a pattern finds. -/
def Policy.auditing : Policy where
  pattern? := some { pattern := [';'] }
  reporting := { enforcement := .audit, collect := true, feature? := some ['f'] }

def Record.semicolon : Record :=
  ⟨⟨[([';'], 1)], List.pairwise_singleton _ _⟩, 1⟩

/-- In the audit a semicolon stays; it is published, or the task learns that it cannot be. -/
theorem guardArguments_spec_auditing :
    ∃ s, Policy.auditing.scrubber = .ok s ∧ (s.run [';']).record? = some Record.semicolon ∧
      (guardArguments none Policy.auditing [';']).result = .ok [';'] ∧
      (guardArguments none Policy.auditing [';']).trace.output =
        Record.semicolon.command defaultArea ['f'] ++ ['\n'] ∧
      ∃ failure, (guardArguments (some .sinkClosed) Policy.auditing [';']).result =
        .error failure := by
  obtain ⟨s, hs, hrecord⟩ : ∃ s, Policy.auditing.scrubber = .ok s ∧
      (s.run [';']).record? = some Record.semicolon := ⟨_, rfl, by decide +kernel⟩
  have hdue : Due Policy.auditing.reporting (s.run [';'])
      (Record.semicolon.command defaultArea ['f']) :=
    .command hrecord rfl rfl (List.cons_ne_nil _ _)
  obtain ⟨haudit, -, hpublished, -, hclosed⟩ := guardArguments_spec hs [';']
  exact ⟨s, hs, hrecord, haudit rfl, (hpublished _ hdue).1, (hclosed .sinkClosed).1.2 ⟨_, hdue⟩⟩

end ShellGuard
