import ShellGuard.Proofs.CommandLine.Delivery
import ShellGuard.Proofs.Reporting.Guarding

/-!
# Publishing — when a command publishes a record

Only sanitizing publishes anything, and only where a record is due about the value under the policy
that was asked for.  All of that is settled before the result is delivered: the line is on the
standard output then, or the command has failed because the standard output refused it.

## Main definitions

* `Request.Publishes` — the line that a command publishes in a world.
* `Request.Published` — what is on the standard output in front of the result.
* `Request.shown` — the value that a command shows.

## Main statements

* `Request.publishes_iff` — a command publishes what is due about its value.
* `Request.output_of_taken`, `Request.output_of_refused`, `Request.output_of_nothing` — what becomes
  of the line.
* `Request.published_of_output` — a command that comes to show a value has published the line.
* `Request.shown_of_enforce` — which value it shows without an audit.
-/

namespace ShellGuard.Request

/--
The line that a command publishes, if it is taken: the command sanitizes, its policy and its value
are there, and a record is due about what the scrubber of the policy makes of the value.
-/
inductive Publishes (r : Request) (w : World) : Text → Prop
  | line {options : PolicyOptions} {policy : Policy} {value : Text} {s : Scrubber} {line : Text}
      (hcommand : r.command = .sanitize options) (hpolicy : (options.resolve w).result = .ok policy)
      (hvalue : (r.io.read w).result = .ok value) (hs : policy.scrubber = .ok s)
      (hdue : Due policy.reporting (s.run value) line) : Publishes r w line

/--
What a command that comes to show a value has published: the line that it publishes, which was
taken, or nothing if it publishes none.
-/
inductive Published (r : Request) (w : World) : Text → Prop
  | line {line : Text} (hline : r.Publishes w line)
      (htaken : w.published (line ++ ['\n']) = .taken) : Published r w (line ++ ['\n'])
  | nothing (hnone : ∀ line, ¬ r.Publishes w line) : Published r w []

/-- The value to show: in an audit the one that was given, and else what became of it. -/
def shown (r : Request) (policy : Policy) (value : Text) (outcome : Outcome) : Text :=
  match r.command with
  | .sanitize _ => policy.reporting.choose value outcome.text
  | _ => outcome.text

variable {r : Request} {w : World} {options : PolicyOptions} {policy : Policy}
  {value line published : Text} {transform : Transform} {count : Nat} {error : IoError}

/-! ## Steps of a command that sanitizes -/

theorem policy_of_sanitize (h : r.command = .sanitize options) (w : World) :
    r.policy w = options.resolve w := by
  unfold Request.policy
  rw [h]

theorem output_of_sanitize (h : r.command = .sanitize options) (w : World) (policy : Policy)
    (value : Text) (outcome : Outcome) :
    (r.output w policy value outcome).result =
        (reportTo w.published policy.reporting value outcome).result.mapError
          (fun error => (Failure.ofIo error).within "Failed to publish telemetry") ∧
      (r.output w policy value outcome).trace.output =
        (reportTo w.published policy.reporting value outcome).published := by
  unfold output
  rw [h]
  refine ⟨?_, rfl⟩
  change ((reportTo w.published policy.reporting value outcome).result.mapError
    Failure.ofIo).mapError (Failure.within "Failed to publish telemetry") = _
  cases (reportTo w.published policy.reporting value outcome).result <;> rfl

theorem output_of_not_sanitize (h : ∀ options, r.command ≠ .sanitize options) (w : World)
    (policy : Policy) (value : Text) (outcome : Outcome) :
    r.output w policy value outcome = return outcome.text := by
  unfold output
  split
  · next hcommand => exact absurd hcommand (h _)
  · rfl

theorem shown_of_sanitize (h : r.command = .sanitize options) (policy : Policy) (value : Text)
    (outcome : Outcome) : r.shown policy value outcome =
      policy.reporting.choose value outcome.text := by
  unfold shown
  rw [h]

theorem shown_of_not_sanitize (h : ∀ options, r.command ≠ .sanitize options) (policy : Policy)
    (value : Text) (outcome : Outcome) : r.shown policy value outcome = outcome.text := by
  unfold shown
  split
  · next hcommand => exact absurd hcommand (h _)
  · rfl

/-- Unless there is an audit, the value to show is what the transform makes of the value. -/
theorem shown_of_enforce
    (henforce : ∀ options, r.command = .sanitize options → policy.reporting.enforcement = .enforce)
    (value : Text) (outcome : Outcome) : r.shown policy value outcome = outcome.text := by
  by_cases h : ∃ options, r.command = .sanitize options
  · obtain ⟨options, hcommand⟩ := h
    rw [shown_of_sanitize hcommand, Reporting.choose, henforce options hcommand]
  · exact shown_of_not_sanitize (not_exists.1 h) policy value outcome

/-- A scrubber is what is built for a command that sanitizes. -/
theorem build_eq_ok_iff (h : r.command = .sanitize options) :
    Transform.build r.command.kind policy = .ok transform ↔
      ∃ s, policy.scrubber = .ok s ∧ transform = .scrub s := by
  rw [h]
  cases hs : policy.scrubber with
  | error error => simp [Command.kind, Transform.build, hs]
  | ok s => simp [Command.kind, Transform.build, hs, eq_comm]

/-! ## What is published -/

theorem Publishes.prepared (h : r.Publishes w line) :
    ∃ policy value transform, r.Prepared w policy value transform := by
  obtain @⟨options, policy, value, s, line, hcommand, hpolicy, hvalue, hs, -⟩ := h
  rw [← policy_of_sanitize hcommand w] at hpolicy
  exact ⟨policy, value, .scrub s, ⟨hpolicy, hvalue, (build_eq_ok_iff hcommand).2 ⟨s, hs, rfl⟩⟩⟩

/-- A command publishes what is due about its value, if it sanitizes. -/
theorem publishes_iff (h : r.Prepared w policy value transform) :
    r.Publishes w line ↔
      (∃ options, r.command = .sanitize options) ∧
        Due policy.reporting (transform.run value) line := by
  obtain ⟨hpolicy, hvalue, hbuild⟩ := h
  constructor
  · rintro @⟨options, policy', value', s, line, hcommand, hpolicy', hvalue', hs, hdue⟩
    -- the policy, the value and the scrubber are those of the command
    rw [policy_of_sanitize hcommand, hpolicy'] at hpolicy
    rw [hvalue'] at hvalue
    cases hpolicy
    cases hvalue
    obtain ⟨s', hs', rfl⟩ := (build_eq_ok_iff hcommand).1 hbuild
    rw [hs] at hs'
    cases hs'
    exact ⟨⟨options, hcommand⟩, hdue⟩
  · rintro ⟨⟨options, hcommand⟩, hdue⟩
    obtain ⟨s, hs, rfl⟩ := (build_eq_ok_iff hcommand).1 hbuild
    rw [policy_of_sanitize hcommand] at hpolicy
    exact .line hcommand hpolicy hvalue hs hdue

theorem Publishes.due (h : r.Prepared w policy value transform) (hline : r.Publishes w line) :
    (∃ options, r.command = .sanitize options) ∧
      Due policy.reporting (transform.run value) line :=
  (publishes_iff h).1 hline

/-- A line that is taken stands there whole, and there is a value to show. -/
theorem output_of_taken (h : r.Prepared w policy value transform) (hline : r.Publishes w line)
    (htaken : w.published (line ++ ['\n']) = .taken) :
    (r.output w policy value (transform.run value)).result =
        .ok (r.shown policy value (transform.run value)) ∧
      (r.output w policy value (transform.run value)).trace.output = line ++ ['\n'] := by
  obtain ⟨⟨options, hcommand⟩, hdue⟩ := hline.due h
  obtain ⟨hreport, hpublished⟩ := reportTo_of_due hdue value w.published
  obtain ⟨hresult, houtput⟩ := output_of_sanitize hcommand w policy value (transform.run value)
  rw [hresult, houtput, hreport, hpublished, htaken, shown_of_sanitize hcommand]
  exact ⟨rfl, rfl⟩

/-- A line that is refused may have begun, and that is the end. -/
theorem output_of_refused (h : r.Prepared w policy value transform) (hline : r.Publishes w line)
    (hrefused : w.published (line ++ ['\n']) = .refused count error) :
    (∃ failure, (r.output w policy value (transform.run value)).result = .error failure) ∧
      (r.output w policy value (transform.run value)).trace.output =
        (line ++ ['\n']).take count := by
  obtain ⟨⟨options, hcommand⟩, hdue⟩ := hline.due h
  obtain ⟨hreport, hpublished⟩ := reportTo_of_due hdue value w.published
  obtain ⟨hresult, houtput⟩ := output_of_sanitize hcommand w policy value (transform.run value)
  rw [hresult, houtput, hreport, hpublished, hrefused]
  exact ⟨⟨_, rfl⟩, rfl⟩

/-- Without a line there is a value to show, whatever the standard output would say. -/
theorem output_of_nothing (h : r.Prepared w policy value transform)
    (hnone : ∀ line, ¬ r.Publishes w line) :
    (r.output w policy value (transform.run value)).result =
        .ok (r.shown policy value (transform.run value)) ∧
      (r.output w policy value (transform.run value)).trace.output = [] := by
  -- a command that sanitizes may still have a record, but one that is not to be published
  by_cases hsanitize : ∃ options, r.command = .sanitize options
  · have hnot : ∀ line, ¬ Due policy.reporting (transform.run value) line := fun line hdue =>
      hnone line ((publishes_iff h).2 ⟨hsanitize, hdue⟩)
    obtain ⟨options, hcommand⟩ := hsanitize
    obtain ⟨s, -, rfl⟩ := (build_eq_ok_iff hcommand).1 h.built
    obtain ⟨hreport, hpublished⟩ :=
      reportTo_of_not_due hnot Scrubber.text_of_record?_eq_none w.published
    obtain ⟨hresult, houtput⟩ := output_of_sanitize hcommand w policy value (s.run value)
    rw [shown_of_sanitize hcommand]
    exact ⟨hresult.trans (mapError_eq_ok_iff.2 hreport), houtput.trans hpublished⟩
  · rw [output_of_not_sanitize (not_exists.1 hsanitize),
      shown_of_not_sanitize (not_exists.1 hsanitize)]
    exact ⟨rfl, rfl⟩

theorem Published.output (h : r.Prepared w policy value transform) (hp : r.Published w published) :
    (r.output w policy value (transform.run value)).result =
        .ok (r.shown policy value (transform.run value)) ∧
      (r.output w policy value (transform.run value)).trace.output = published := by
  cases hp with
  | line hline htaken => exact output_of_taken h hline htaken
  | nothing hnone => exact output_of_nothing h hnone

theorem published_or_refused (r : Request) (w : World) :
    (∃ published, r.Published w published) ∨
      ∃ line count error, r.Publishes w line ∧
        w.published (line ++ ['\n']) = .refused count error := by
  by_cases h : ∃ line, r.Publishes w line
  · obtain ⟨line, hline⟩ := h
    cases hreply : w.published (line ++ ['\n']) with
    | taken => exact .inl ⟨_, .line hline hreply⟩
    | refused count error => exact .inr ⟨line, count, error, hline, hreply⟩
  · exact .inl ⟨[], .nothing (not_exists.1 h)⟩

/-- A command that comes to show a value has published what it should. -/
theorem published_of_output {shown : Text} (h : r.Prepared w policy value transform)
    (hshown : (r.output w policy value (transform.run value)).result = .ok shown) :
    shown = r.shown policy value (transform.run value) ∧
      r.Published w (r.output w policy value (transform.run value)).trace.output := by
  rcases published_or_refused r w with ⟨published, hpublished⟩ | ⟨line, count, error, hline, hreply⟩
  · obtain ⟨hresult, houtput⟩ := hpublished.output h
    rw [hresult] at hshown
    rw [houtput]
    exact ⟨(Except.ok.inj hshown).symm, hpublished⟩
  · obtain ⟨failure, hfailed⟩ := (output_of_refused h hline hreply).1
    rw [hfailed] at hshown
    cases hshown

end ShellGuard.Request
