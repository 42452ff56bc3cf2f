import ShellGuard.Proofs.CommandLine.JsonLines
import ShellGuard.Proofs.CommandLine.Publishing
import ShellGuard.Proofs.CommandLine.Switches

/-!
# Agreement — a command does what a call of the library does

A command that sanitizes publishes what a call for guarded arguments publishes, and shows the
arguments that the call answers; any other command publishes nothing, and shows what the transform
of its kind makes of the value, whatever the policy.  How much is told changes neither.  It changes
how a command ends only where the standard error refuses a summary.

## Main definitions

* `IoOptions.leaves` — what is left of a published text and a rendered result.

## Main statements

* `Request.guardArguments_eq_output` — the call for guarded arguments and the step of the command.
* `Request.written_run_of_task`, `Request.run_eq_ok_of_task` — requests that ask for the same write
  the same, and end in the same way unless a summary is refused.
* `Request.execute_agrees` — what is left of a command that comes to its end.
-/

namespace ShellGuard

open Run

/--
What is left of a published text and a rendered result: both on the standard output, or the result
in the file that is asked for.
-/
def IoOptions.leaves (io : IoOptions) (published rendered : Text) : Text × List (Path × Text) :=
  match io.outputFile? with
  | none => (published ++ rendered ++ ['\n'], [])
  | some path => (published, [(path, rendered ++ ['\n'])])

theorem IoOptions.map_delivered (io : IoOptions) (published rendered : Text) :
    (io.delivered rendered).map (published ++ ·) id = io.leaves published rendered := by
  unfold delivered leaves
  cases io.outputFile? with
  | none => simp
  | some path => simp

namespace Request

variable {r r' : Request} {w : World} {policy : Policy} {value : Text} {transform : Transform}

/-! ## One run -/

/-- The arguments of a call are those that the command shows, and both publish the same. -/
theorem guardArguments_eq_output {options : PolicyOptions} {shown : Text}
    (hcommand : r.command = .sanitize options) (h : r.Prepared w policy value transform)
    (hshown : (r.output w policy value (transform.run value)).result = .ok shown) :
    (guardArguments none policy value).result = .ok shown ∧
      (guardArguments none policy value).trace.output =
        (r.output w policy value (transform.run value)).trace.output := by
  obtain ⟨rfl, hpublished⟩ := published_of_output h hshown
  obtain ⟨s, hs, rfl⟩ := (build_eq_ok_iff hcommand).1 h.built
  rw [shown_of_sanitize hcommand]
  generalize (r.output w policy value ((Transform.scrub s).run value)).trace.output = published
    at hpublished ⊢
  cases hpublished with
  | line hline htaken =>
    obtain ⟨hresult, houtput, -⟩ := guardArguments_of_due hs (hline.due h).2
    exact ⟨hresult, houtput⟩
  | nothing hnone =>
    exact guardArguments_of_not_due hs
      (fun line hdue => hnone line ((publishes_iff h).2 ⟨⟨options, hcommand⟩, hdue⟩)) none

theorem transformOnce_of_build (hbuild : Transform.build r.command.kind policy = .ok transform)
    (value : Text) : transformOnce r.command.kind policy value = .ok (transform.run value) := by
  rw [transformOnce, hbuild]
  rfl

/-- Only scrubbing depends on the policy. -/
theorem build_of_not_sanitize (h : ∀ options, r.command ≠ .sanitize options)
    (policy policy' : Policy) :
    Transform.build r.command.kind policy = Transform.build r.command.kind policy' := by
  cases hcommand : r.command with
  | sanitize options => exact absurd hcommand (h options)
  | quote => rfl
  | neutralize => rfl
  | escape => rfl

/-! ## Two runs -/

/-- Where the result goes is the same, whatever is told about it. -/
theorem alike_deliver {io io' : IoOptions} (h : io.outputFile? = io'.outputFile?)
    (quiet quiet' : Bool) (w : World) (rendered : Text) :
    (io.deliver quiet w rendered).Alike (io'.deliver quiet' w rendered) := by
  cases hfile : io.outputFile? with
  | none =>
    rw [IoOptions.deliver_to_output hfile, IoOptions.deliver_to_output (h.symm.trans hfile)]
    exact .refl _
  | some path =>
    rw [IoOptions.deliver_to_file hfile, IoOptions.deliver_to_file (h.symm.trans hfile)]
    have hannounced :
        (IoOptions.announce w quiet path).Alike (IoOptions.announce w quiet' path) :=
      (IoOptions.silent_announce w quiet path).alike (IoOptions.silent_announce w quiet' path)
        ((IoOptions.result_announce w quiet path).trans
          (IoOptions.result_announce w quiet' path).symm)
    exact hannounced.bind fun _ _ => .refl _

/-- Requests that ask for the same need the same for their results. -/
theorem Prepared.of_task (h : r.Prepared w policy value transform) (htask : r.task = r'.task) :
    r'.Prepared w policy value transform := by
  obtain ⟨quiet, debug, command, value?, inputFile?, outputFile?, json, summary⟩ := r
  obtain ⟨quiet', debug', command', value?', inputFile?', outputFile?', json', summary'⟩ := r'
  simp only [task, Request.mk.injEq, IoOptions.mk.injEq, true_and, and_true] at htask
  obtain ⟨rfl, rfl, rfl, rfl, rfl⟩ := htask
  exact ⟨h.resolved, h.read, h.built⟩

/-- Up to the summary they conclude alike, and a summary writes nothing. -/
theorem conclude_of_task (h : r.task = r'.task) (w : World) (policy : Policy) (value : Text)
    (outcome : Outcome) :
    (r.conclude w policy value outcome).trace.written =
        (r'.conclude w policy value outcome).trace.written ∧
      (¬ r.SummaryRefused w outcome → ¬ r'.SummaryRefused w outcome →
        (r.conclude w policy value outcome).Alike (r'.conclude w policy value outcome)) := by
  obtain ⟨quiet, debug, command, value?, inputFile?, outputFile?, json, summary⟩ := r
  obtain ⟨quiet', debug', command', value?', inputFile?', outputFile?', json', summary'⟩ := r'
  simp only [task, Request.mk.injEq, IoOptions.mk.injEq, true_and, and_true] at h
  obtain ⟨rfl, rfl, rfl, rfl, rfl⟩ := h
  -- they differ in what they tell, which is no part of what is written
  constructor
  · apply Alike.written_bind (.refl _)
    intro shown _
    apply Alike.written_bind (alike_deliver rfl quiet quiet' w _)
    intro _ _
    exact (silent_iff_written.1 (IoOptions.silent_summarize _ _ _ _ _)).trans
      (silent_iff_written.1 (IoOptions.silent_summarize _ _ _ _ _)).symm
  · intro htaken htaken'
    apply Alike.bind (.refl _)
    intro shown _
    apply Alike.bind (alike_deliver rfl quiet quiet' w _)
    intro _ _
    exact (IoOptions.silent_summarize _ _ _ _ _).alike (IoOptions.silent_summarize _ _ _ _ _)
      ((result_summarize_eq_ok_iff.2 htaken).trans (result_summarize_eq_ok_iff.2 htaken').symm)

/-- Requests that ask for the same write the same. -/
theorem written_run_of_task (h : r.task = r'.task) (w : World) :
    (r.run w).trace.written = (r'.run w).trace.written := by
  rcases prepared_or_unprepared r w with ⟨policy, value, transform, hprepared⟩ | hnot
  · rw [hprepared.alike_run.written, (hprepared.of_task h).alike_run.written]
    exact (conclude_of_task h w policy value _).1
  · have hsilent := (run_of_unprepared hnot).2
    have hsilent' := (run_of_unprepared fun policy value transform hprepared =>
      hnot policy value transform (hprepared.of_task h.symm)).2
    exact (silent_iff_written.1 hsilent).trans (silent_iff_written.1 hsilent').symm

/-- They also end in the same way, unless a summary is refused. -/
theorem run_eq_ok_of_task (h : r.task = r'.task)
    (htaken : ∀ policy value transform, r.Prepared w policy value transform →
      ¬ r.SummaryRefused w (transform.run value))
    (htaken' : ∀ policy value transform, r'.Prepared w policy value transform →
      ¬ r'.SummaryRefused w (transform.run value)) (hrun : (r.run w).result = .ok ()) :
    (r'.run w).result = .ok () := by
  obtain ⟨policy, value, transform, -, hprepared, -, -⟩ := exists_prepared_of_run_eq_ok hrun
  have hprepared' := hprepared.of_task h
  have halike := (conclude_of_task h w policy value (transform.run value)).2
    (htaken _ _ _ hprepared) (htaken' _ _ _ hprepared')
  rw [hprepared'.alike_run.result, ← halike.result, ← hprepared.alike_run.result]
  exact hrun

/-! ## What is left -/

/--
What is left of a command that comes to its end.  A command that sanitizes publishes what the call
for guarded arguments publishes under the resolved policy, and leaves the arguments of the call, or
as JSON these with the record of the transform.  Any other command publishes nothing, and leaves
what the transform of its kind makes of the value under any policy.  Command lines that differ in
nothing but switches write the same, whatever is refused; and they end with the same exit code,
unless one of them tells a summary and the standard error refuses it.
-/
theorem execute_agrees (wording : Wording) (w : World) :
    (∀ (r : Request) (options : PolicyOptions), r.command = .sanitize options →
        exitCode (r.execute wording w).1 = 0 →
          ∃ policy value outcome arguments,
            (options.resolve w).result = .ok policy ∧ (r.io.read w).result = .ok value ∧
            transformOnce .sanitize policy value = .ok outcome ∧
            (guardArguments none policy value).result = .ok arguments ∧
            (r.execute wording w).2.written =
              r.io.leaves (guardArguments none policy value).trace.output
                (if r.io.json then Jsonable.encode (Outcome.mk arguments outcome.record?)
                  else arguments)) ∧
      (∀ r : Request, (∀ options, r.command ≠ .sanitize options) →
        exitCode (r.execute wording w).1 = 0 →
          ∃ value outcome,
            (r.io.read w).result = .ok value ∧
            (∀ policy, transformOnce r.command.kind policy value = .ok outcome) ∧
            (r.execute wording w).2.written =
              r.io.leaves [] (if r.io.json then Jsonable.encode outcome else outcome.text)) ∧
      ∀ (environment : Environment) (words words' : List Text) (r r' : Request),
        SwitchesApart words words' →
        ofWords environment words = .ok r → ofWords environment words' = .ok r' →
          (r.execute wording w).2.written = (r'.execute wording w).2.written ∧
            ((∀ policy value transform, r.Prepared w policy value transform →
                ¬ r.SummaryRefused w (transform.run value) ∧
                  ¬ r'.SummaryRefused w (transform.run value)) →
              exitCode (r.execute wording w).1 = exitCode (r'.execute wording w).1) := by
  refine ⟨?_, ?_, ?_⟩
  · intro r options hcommand hcode
    have hrun := exitCode_execute_eq_zero_iff.1 hcode
    obtain ⟨policy, value, transform, shown, hprepared, hshown, hwritten⟩ :=
      exists_prepared_of_run_eq_ok hrun
    obtain ⟨hresult, houtput⟩ := guardArguments_eq_output hcommand hprepared hshown
    obtain ⟨hpolicy, hvalue, hbuild⟩ := hprepared
    have honce := transformOnce_of_build hbuild value
    rw [policy_of_sanitize hcommand] at hpolicy
    rw [hcommand] at honce
    refine ⟨policy, value, transform.run value, shown, hpolicy, hvalue, honce, hresult, ?_⟩
    rw [written_execute, hwritten, IoOptions.map_delivered, houtput]
    rfl
  · intro r hcommand hcode
    have hrun := exitCode_execute_eq_zero_iff.1 hcode
    obtain ⟨policy, value, transform, shown, hprepared, hshown, hwritten⟩ :=
      exists_prepared_of_run_eq_ok hrun
    obtain ⟨hpolicy, hvalue, hbuild⟩ := hprepared
    refine ⟨value, transform.run value, hvalue, fun policy' => ?_, ?_⟩
    · exact transformOnce_of_build ((build_of_not_sanitize hcommand policy' policy).trans hbuild)
        value
    · rw [output_of_not_sanitize hcommand] at hshown hwritten
      cases hshown
      rw [written_execute, hwritten, IoOptions.map_delivered]
      rfl
  · intro environment words words' r r' hwords hr hr'
    have htask := hwords.task_ofWords hr hr'
    rw [written_execute, written_execute]
    refine ⟨written_run_of_task htask w, fun htaken => ?_⟩
    have hleft : ∀ policy value transform, r.Prepared w policy value transform →
        ¬ r.SummaryRefused w (transform.run value) := fun policy value transform hprepared =>
      (htaken policy value transform hprepared).1
    -- what is there for one of the requests is there for the other
    have hright : ∀ policy value transform, r'.Prepared w policy value transform →
        ¬ r'.SummaryRefused w (transform.run value) := fun policy value transform hprepared =>
      (htaken policy value transform (hprepared.of_task htask.symm)).2
    have hends : (r.run w).result = .ok () ↔ (r'.run w).result = .ok () :=
      ⟨run_eq_ok_of_task htask hleft hright, run_eq_ok_of_task htask.symm hright hleft⟩
    exact exitCode_execute_eq_of_iff hends

/-- A command that publishes a semicolon, and shows the result as JSON. -/
def publishingJson : Request :=
  ⟨false, false, .sanitize { feature? := some ['F'] },
    { value? := some ['a', ';', 'b'], json := true }⟩

/-- A world in which nothing gets to the standard error. -/
def muteWorld : World :=
  { Jsonable.noWorld with messages := .refusing (.other "No space left on device (os error 28)") }

/--
Switches in front of the command and behind it change nothing of what is written, nor of the exit
code.  That one they do change where the summary which they ask for is refused.
-/
theorem execute_agrees_publishingJson :
    exitCode (publishingJson.execute .plain Jsonable.noWorld).1 = 0 ∧
      (∃ policy outcome arguments,
        transformOnce .sanitize policy ['a', ';', 'b'] = .ok outcome ∧
        (guardArguments none policy ['a', ';', 'b']).result = .ok arguments ∧
        (publishingJson.execute .plain Jsonable.noWorld).2.written =
          ((guardArguments none policy ['a', ';', 'b']).trace.output ++
            Jsonable.encode (Outcome.mk arguments outcome.record?) ++ ['\n'], [])) ∧
      (∃ r r',
        ofWords (fun _ => none) ["sanitize", "--telemetry-feature", "F", "--json", "a;b"] = .ok r ∧
        ofWords (fun _ => none)
          ["-d", "sanitize", "--telemetry-feature", "F", "--json", "-s", "a;b"] = .ok r' ∧
        (r.execute .plain Jsonable.noWorld).2.written =
          (r'.execute .plain Jsonable.noWorld).2.written ∧
        exitCode (r.execute .plain Jsonable.noWorld).1 =
          exitCode (r'.execute .plain Jsonable.noWorld).1 ∧
        (r.execute .plain muteWorld).2.written = (r'.execute .plain muteWorld).2.written ∧
        exitCode (r.execute .plain muteWorld).1 = 0 ∧
        exitCode (r'.execute .plain muteWorld).1 = failureCode) ∧
      exitCode ((Jsonable.escapeAsJson [';']).execute .plain Jsonable.noWorld).1 = 0 ∧
      ∃ outcome, (∀ policy, transformOnce .escape policy [';'] = .ok outcome) ∧
        ((Jsonable.escapeAsJson [';']).execute .plain Jsonable.noWorld).2.written =
          (Jsonable.encode outcome ++ ['\n'], []) := by
  obtain ⟨hsanitize, hother, hswitches⟩ := execute_agrees .plain Jsonable.noWorld
  have hcode : exitCode (publishingJson.execute .plain Jsonable.noWorld).1 = 0 := by
    decide +kernel
  have hcode' : exitCode ((Jsonable.escapeAsJson [';']).execute .plain Jsonable.noWorld).1 = 0 := by
    decide +kernel
  refine ⟨hcode, ?_, ?_, hcode', ?_⟩
  · obtain ⟨policy, value, outcome, arguments, -, hvalue, honce, harguments, hwritten⟩ :=
      hsanitize publishingJson _ rfl hcode
    cases hvalue
    exact ⟨policy, outcome, arguments, honce, harguments, hwritten⟩
  · let before : List Text := ["sanitize", "--telemetry-feature", "F", "--json"]
    have hinner : SwitchesApart (before ++ [['a', ';', 'b']])
        (before ++ ['-', 's'] :: [['a', ';', 'b']]) :=
      .insert (by decide) (by decide)
    have hfront : LevelReader.isSwitchWord ['-', 'd'] := by decide
    have hwords := SwitchesApart.switch hfront hinner
    obtain ⟨hwritten, hends⟩ := hswitches (fun _ => none) _ _ _ _ hwords rfl rfl
    obtain ⟨-, -, hmute⟩ := execute_agrees .plain muteWorld
    obtain ⟨hwritten', -⟩ := hmute (fun _ => none) _ _ _ _ hwords rfl rfl
    have htaken : ∀ (r : Request) outcome, ¬ r.SummaryRefused Jsonable.noWorld outcome := by
      rintro r outcome ⟨-, -, count, error, hrefused⟩
      cases hrefused
    exact ⟨_, _, rfl, rfl, hwritten, hends fun _ _ _ _ => ⟨htaken _ _, htaken _ _⟩, hwritten',
      by decide +kernel, by decide +kernel⟩
  · obtain ⟨value, outcome, hvalue, honce, hwritten⟩ := hother (Jsonable.escapeAsJson [';'])
      (fun _ => by simp [Jsonable.escapeAsJson]) hcode'
    cases hvalue
    exact ⟨outcome, honce, hwritten⟩

end Request

end ShellGuard
