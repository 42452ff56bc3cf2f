import ShellGuard.CommandLine.Grammar
import ShellGuard.Proofs.CommandLine.JsonLines
import ShellGuard.Proofs.CommandLine.Publishing

/-!
# Failures — what a command that fails has written

A command asks for its policy and its value, builds its transform, publishes, delivers the result,
and tells a summary.  Everything in front of publishing is silent.  From there on each step may be
refused what it writes, and then what was written before is left, and behind it what the refused
step began.

## Main definitions

* `Request.rendered` — the result of a command as it is shown.
* `Request.Fails` — the ways in which a command fails, with what it has written by then.

## Main statements

* `Request.run_eq_ok_or_fails`, `Request.Fails.run` — a command comes to its end, or it fails in one
  of these ways and leaves what is said there.
* `Request.execute_fails_iff` — what a command that ends with the exit code of a failure has written.
* `Request.execute_publishing_then_failing` — a failed command whose standard output is not empty.
-/

namespace ShellGuard.Request

open Run

variable {r : Request} {w : World} {policy : Policy} {value output : Text} {transform : Transform}
  {published line : Text} {files : List (Path × Text)}

def rendered (r : Request) (policy : Policy) (value : Text) (transform : Transform) : Text :=
  r.io.render (r.shown policy value (transform.run value)) (transform.run value).record?

/--
The ways in which a command fails, each with what is left on the standard output and in files: there
is no policy, no value or no transform; the line that is published is refused; the result does not
get where it is asked for; the summary is refused.
-/
inductive Fails (r : Request) (w : World) : Text → List (Path × Text) → Prop
  | preparing (hunprepared : ∀ policy value transform, ¬ r.Prepared w policy value transform) :
      Fails r w [] []
  | publishing {line : Text} {count : Nat} {error : IoError} (hline : r.Publishes w line)
      (hrefused : w.published (line ++ ['\n']) = .refused count error) :
      Fails r w ((line ++ ['\n']).take count) []
  | delivering {policy : Policy} {value : Text} {transform : Transform} {published output : Text}
      {files : List (Path × Text)} (hprepared : r.Prepared w policy value transform)
      (hpublished : r.Published w published)
      (hleft : r.io.Undelivered w (r.rendered policy value transform) output files) :
      Fails r w (published ++ output) files
  | summarizing {policy : Policy} {value : Text} {transform : Transform} {published : Text}
      (hprepared : r.Prepared w policy value transform) (hpublished : r.Published w published)
      (haccepted : r.io.Accepted w (r.rendered policy value transform))
      (hrefused : r.SummaryRefused w (transform.run value)) :
      Fails r w (published ++ (r.io.delivered (r.rendered policy value transform)).1)
        (r.io.delivered (r.rendered policy value transform)).2

/-! ## Conclusions -/

/-- Behind what is published a conclusion goes as its delivery and its summary do. -/
theorem Published.conclude (h : r.Prepared w policy value transform)
    (hpublished : r.Published w published) :
    (r.conclude w policy value (transform.run value)).result =
        (r.io.deliver r.quiet w (r.rendered policy value transform) >>= fun _ =>
          r.io.summarize r.quiet w r.command.kind (transform.run value).record?).result ∧
      (r.conclude w policy value (transform.run value)).trace.written =
        (r.io.deliver r.quiet w (r.rendered policy value transform)).trace.written.map
          (published ++ ·) id := by
  obtain ⟨hresult, houtput⟩ := hpublished.output h
  constructor
  · unfold Request.conclude
    rw [bind_of_ok hresult]
    rfl
  · rw [written_conclude hresult, houtput]
    rfl

/-- A command of which nothing is refused comes to its end. -/
theorem run_of_accepted (h : r.Prepared w policy value transform)
    (hpublished : r.Published w published)
    (haccepted : r.io.Accepted w (r.rendered policy value transform))
    (htold : ¬ r.SummaryRefused w (transform.run value)) : (r.run w).result = .ok () := by
  rw [h.alike_run.result, (hpublished.conclude h).1]
  exact bind_eq_ok.2 ⟨(), (haccepted.deliver r.quiet).1, result_summarize_eq_ok_iff.2 htold⟩

/-- A command comes to its end, or it fails in one of the ways that there are. -/
theorem run_eq_ok_or_fails (r : Request) (w : World) :
    (r.run w).result = .ok () ∨ ∃ output files, r.Fails w output files := by
  rcases prepared_or_unprepared r w with ⟨policy, value, transform, hprepared⟩ | hunprepared
  · rcases published_or_refused r w with ⟨published, hpublished⟩ | ⟨_, _, _, hline, hrefused⟩
    · rcases r.io.accepted_or_undelivered w (r.rendered policy value transform) with
        haccepted | ⟨output, files, hleft⟩
      · by_cases hrefused : r.SummaryRefused w (transform.run value)
        · exact .inr ⟨_, _, .summarizing hprepared hpublished haccepted hrefused⟩
        · exact .inl (run_of_accepted hprepared hpublished haccepted hrefused)
      · exact .inr ⟨_, _, .delivering hprepared hpublished hleft⟩
    · exact .inr ⟨_, _, .publishing hline hrefused⟩
  · exact .inr ⟨_, _, .preparing hunprepared⟩

/-- A command that fails in one of these ways leaves what is said there. -/
theorem Fails.run (h : r.Fails w output files) :
    (∃ failure, (r.run w).result = .error failure) ∧
      (r.run w).trace.written = (output, files) := by
  cases h with
  | preparing hunprepared =>
    obtain ⟨hfailed, hsilent⟩ := run_of_unprepared hunprepared
    exact ⟨hfailed, silent_iff_written.1 hsilent⟩
  | publishing hline hrefused =>
    obtain ⟨policy, value, transform, hprepared⟩ := hline.prepared
    obtain ⟨⟨failure, hfailed⟩, houtput⟩ := output_of_refused hprepared hline hrefused
    -- the refusal comes first: nothing is delivered behind it
    have hconclude : r.conclude w policy value (transform.run value) =
        ⟨.error failure, (r.output w policy value (transform.run value)).trace⟩ :=
      bind_of_error hfailed
    rw [hprepared.alike_run.result, hprepared.alike_run.written, hconclude, Trace.written, houtput,
      files_output]
    exact ⟨⟨failure, rfl⟩, rfl⟩
  | delivering hprepared hpublished hleft =>
    obtain ⟨⟨failure, hfailed⟩, hwritten⟩ := hleft.deliver r.quiet
    obtain ⟨hresult, hconclude⟩ := hpublished.conclude hprepared
    rw [hprepared.alike_run.result, hprepared.alike_run.written, hresult, hconclude, hwritten]
    exact ⟨⟨failure, bind_eq_error.2 (.inl hfailed)⟩, rfl⟩
  | @summarizing policy value transform published hprepared hpublished haccepted hrefused =>
    obtain ⟨hdelivered, hwritten⟩ := haccepted.deliver r.quiet
    obtain ⟨hresult, hconclude⟩ := hpublished.conclude hprepared
    rw [hprepared.alike_run.result, hprepared.alike_run.written, hresult, hconclude, hwritten]
    refine ⟨?_, rfl⟩
    cases hsummary : (r.io.summarize r.quiet w r.command.kind (transform.run value).record?).result
      with
    | ok _ => exact absurd hrefused (result_summarize_eq_ok_iff.1 hsummary)
    | error failure => exact ⟨failure, bind_eq_error.2 (.inr ⟨(), hdelivered, hsummary⟩)⟩

/-! ## What is left -/

/--
A command ends with the exit code of a failure exactly if it fails in one of these ways, and then
its standard output and the files are as is said there.  So they are empty whatever is missing for
the result; otherwise there is what was published, if that was taken, and behind it a beginning of
what was refused.
-/
theorem execute_fails_iff (wording : Wording) :
    (exitCode (r.execute wording w).1 = failureCode ∧
        (r.execute wording w).2.output = output ∧ (r.execute wording w).2.files = files) ↔
      r.Fails w output files := by
  have hwritten := written_execute wording r w
  rw [exitCode_execute_eq_failureCode_iff]
  constructor
  · rintro ⟨⟨failure, hfailed⟩, rfl, rfl⟩
    rcases run_eq_ok_or_fails r w with hok | ⟨output, files, hfails⟩
    · rw [hok] at hfailed
      cases hfailed
    · obtain ⟨houtput, hfiles⟩ := Prod.mk.inj (hwritten.trans hfails.run.2)
      rw [houtput, hfiles]
      exact hfails
  · intro hfails
    obtain ⟨hfailed, hleft⟩ := hfails.run
    exact ⟨hfailed, Prod.mk.inj (hwritten.trans hleft)⟩

/-- A command that publishes a semicolon, and writes the result to a file. -/
def publishingToFile : Request :=
  ⟨false, false, .sanitize { feature? := some ['F'] },
    { value? := some ['a', ';', 'b'], outputFile? := some "missing/out.txt".toList }⟩

/-- A disk that is full: files can be opened, and take three characters. -/
def fullDisk : World :=
  { Jsonable.noWorld with
    entry := fun _ => ⟨false, .error .notFound, .ok ()⟩
    file := fun _ _ => .refused 3 (.other "No space left on device (os error 28)") }

/-- On a full disk there is the line, and a file with a beginning of the result. -/
theorem execute_fails_iff_fullDisk :
    ∃ line, publishingToFile.Publishes fullDisk line ∧
      exitCode (publishingToFile.execute .plain fullDisk).1 = failureCode ∧
      (publishingToFile.execute .plain fullDisk).2.output = line ++ ['\n'] ∧
      (publishingToFile.execute .plain fullDisk).2.files =
        [("missing/out.txt".toList, ['a', '_', '#'])] := by
  obtain ⟨policy, s, hpolicy, hs, hrecord, hcollect, hfeature, hshown⟩ :
      ∃ policy s, (PolicyOptions.resolve { feature? := some ['F'] } fullDisk).result =
          .ok policy ∧ policy.scrubber = .ok s ∧
        (s.run ['a', ';', 'b']).record? = some Record.semicolon ∧ policy.reporting.collect ∧
        policy.reporting.feature? = some ['F'] ∧
        publishingToFile.rendered policy ['a', ';', 'b'] (.scrub s) = "a_#removed#_b".toList :=
    ⟨_, _, rfl, rfl, by decide +kernel⟩
  have hline : publishingToFile.Publishes fullDisk _ :=
    .line rfl hpolicy rfl hs (.command hrecord hcollect hfeature (List.cons_ne_nil _ _))
  have hprepared : publishingToFile.Prepared fullDisk policy ['a', ';', 'b'] (.scrub s) :=
    ⟨hpolicy, rfl, (build_eq_ok_iff rfl).2 ⟨s, hs, rfl⟩⟩
  have hfails := Fails.delivering hprepared (.line hline rfl) (.saving rfl rfl rfl)
  rw [hshown] at hfails
  obtain ⟨hcode, houtput, hfiles⟩ := (execute_fails_iff .plain).2 hfails
  exact ⟨_, hline, hcode, houtput.trans (List.append_nil _), hfiles⟩

/-- A line is published, and then the file for the result cannot be opened. -/
theorem execute_publishing_then_failing :
    ofWords (fun _ => none) ["sanitize", "--telemetry-feature", "F", "--output", "missing/out.txt",
        "--", "a;b"] = .ok publishingToFile ∧
      exitCode (publishingToFile.execute .plain Jsonable.noWorld).1 = failureCode ∧
      (publishingToFile.execute .plain Jsonable.noWorld).2.output =
        Record.semicolon.command defaultArea ['F'] ++ ['\n'] ∧
      (publishingToFile.execute .plain Jsonable.noWorld).2.output ≠ [] := by
  decide +kernel

end ShellGuard.Request
