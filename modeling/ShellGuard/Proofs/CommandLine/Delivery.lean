import ShellGuard.CommandLine.Execution
import ShellGuard.Proofs.Runs

/-!
# Delivery — what a command that comes to its end has written

A command asks for its policy and its value in silence.  What it writes is what it publishes about
the value, and behind it the result: as a line of the standard output, or as the only file.  Where
the result is refused, a beginning of it may be left.

## Main definitions

* `IoOptions.delivered` — the result on the standard output, or in a file.
* `IoOptions.Accepted`, `IoOptions.Undelivered` — the ways in which it gets there, or does not.
* `IoOptions.announce`, `IoOptions.openFile` — the steps in front of writing a file.
* `Request.Prepared` — the policy, the value and the transform of a command are there.
* `Request.SummaryRefused` — the standard error does not take the summary of a command.

## Main statements

* `Request.silent_policy`, `IoOptions.silent_read` — the steps that write nothing.
* `IoOptions.Accepted.deliver`, `IoOptions.Undelivered.deliver` — what is written of a result.
* `Request.Prepared.alike_run`, `Request.run_of_unprepared` — what a whole command does.
* `Request.exists_prepared_of_run_eq_ok` — what a command that comes to its end has written.
* `Request.written_execute`, `Request.exitCode_execute` — what is left of a command when its failure
  is told.
-/

namespace ShellGuard

open Run

/-! ## Silent steps -/

namespace Policy

theorem silent_load (w : World) (path : Path) : (load w path).Silent :=
  (silent_log _).bind fun _ => silent_ofExcept _

theorem silent_loadNamed (w : World) (name : Text) : (loadNamed w name).Silent := by
  refine (silent_log _).bind fun _ => ?_
  cases choose? w name with
  | none => exact silent_ofExcept _
  | some path => exact silent_load w path

theorem silent_loadStandard : loadStandard.Silent :=
  (silent_log _).bind fun _ => silent_pure _

end Policy

namespace PolicyOptions

theorem silent_base (o : PolicyOptions) (w : World) : (o.base w).Silent := by
  unfold base
  split
  · exact Policy.silent_load w _
  · exact (Policy.silent_loadNamed w _).within _
  · exact Policy.silent_loadStandard

theorem silent_resolveWith (o : PolicyOptions) (s : Switches) (w : World) :
    (o.resolveWith s w).Silent := by
  refine (o.silent_base w).bind fun base => ?_
  refine (silent_ofExcept _).bind fun policy => ?_
  exact (silent_log _).bind fun _ => silent_pure policy

theorem silent_resolve (o : PolicyOptions) (w : World) : (o.resolve w).Silent :=
  o.silent_resolveWith (.ofEnvironment w.environment) w

end PolicyOptions

theorem Request.silent_policy (r : Request) (w : World) : (r.policy w).Silent := by
  unfold policy
  split
  · exact PolicyOptions.silent_resolve _ w
  · exact silent_pure _

namespace IoOptions

theorem silent_read (io : IoOptions) (w : World) : (io.read w).Silent := by
  unfold read
  split
  · exact (silent_log _).bind fun _ => silent_pure _
  · refine (silent_log _).bind fun _ => ?_
    exact ((silent_ofExcept _).within _).bind fun _ => silent_pure _
  · refine (silent_log _).bind fun _ => ?_
    exact ((silent_ofExcept _).within _).bind fun _ => silent_pure _

theorem silent_summarize (io : IoOptions) (quiet : Bool) (w : World) (kind : TransformKind)
    (record? : Option Record) : (io.summarize quiet w kind record?).Silent := by
  unfold summarize
  split
  · exact silent_tell _ _
  · exact silent_pure ()

theorem result_summarize (io : IoOptions) (quiet : Bool) (w : World) (kind : TransformKind)
    (record? : Option Record) : (io.summarize quiet w kind record?).result =
      if io.summary ∧ ¬ quiet then (w.messages (summaryText false kind record?)).result
      else .ok () := by
  unfold summarize
  split <;> rfl

/-! ## The result -/

/-- What the standard output shows of a rendered result, and the files that hold it. -/
def delivered (io : IoOptions) (rendered : Text) : Text × List (Path × Text) :=
  match io.outputFile? with
  | none => (rendered ++ ['\n'], [])
  | some path => ([], [(path, rendered ++ ['\n'])])

/-- Does a rendered result get where it is asked for? -/
inductive Accepted (io : IoOptions) (w : World) (rendered : Text) : Prop
  | printed (hfile : io.outputFile? = none) (htaken : w.output (rendered ++ ['\n']) = .taken)
  | saved {path : Path} (hfile : io.outputFile? = some path)
      (hopened : (w.entry path).writable = .ok ())
      (htaken : w.file path (rendered ++ ['\n']) = .taken)

/--
What is left of a rendered result that does not get there, on the standard output and in files: a
beginning where it is refused, and nothing where there is no file to take it.
-/
inductive Undelivered (io : IoOptions) (w : World) (rendered : Text) :
    Text → List (Path × Text) → Prop
  | printing {count : Nat} {error : IoError} (hfile : io.outputFile? = none)
      (hrefused : w.output (rendered ++ ['\n']) = .refused count error) :
      Undelivered io w rendered ((rendered ++ ['\n']).take count) []
  | opening {path : Path} {error : IoError} (hfile : io.outputFile? = some path)
      (hrefused : (w.entry path).writable = .error error) : Undelivered io w rendered [] []
  | saving {path : Path} {count : Nat} {error : IoError} (hfile : io.outputFile? = some path)
      (hopened : (w.entry path).writable = .ok ())
      (hrefused : w.file path (rendered ++ ['\n']) = .refused count error) :
      Undelivered io w rendered [] [(path, (rendered ++ ['\n']).take count)]

def announce (w : World) (quiet : Bool) (path : Path) : Run Unit :=
  if quiet then return ()
  else (Run.tell w.messages
    ((Message.info (.concat ["Writing output to file: ", path])).line false)).regardless

def openFile (w : World) (path : Path) : Run Unit :=
  (Run.ofExcept ((w.entry path).writable.mapError Failure.ofIo)).within
    (.concat ["Failed to create output file: ", path])

theorem silent_announce (w : World) (quiet : Bool) (path : Path) :
    (announce w quiet path).Silent := by
  unfold announce
  split
  · exact silent_pure ()
  · exact (silent_tell _ _).regardless

theorem result_announce (w : World) (quiet : Bool) (path : Path) :
    (announce w quiet path).result = .ok () := by
  cases quiet <;> rfl

theorem silent_openFile (w : World) (path : Path) : (openFile w path).Silent :=
  (silent_ofExcept _).within _

section Delivering

variable {io : IoOptions} {w : World} {rendered output : Text} {files : List (Path × Text)}
  {path : Path}

theorem deliver_to_output (h : io.outputFile? = none) (quiet : Bool) (w : World) (rendered : Text) :
    io.deliver quiet w rendered = .print w.output (rendered ++ ['\n']) := by
  unfold deliver
  rw [h]

/-- The three steps to a file: it is announced, opened and written. -/
theorem deliver_to_file (h : io.outputFile? = some path) (quiet : Bool) (w : World)
    (rendered : Text) :
    io.deliver quiet w rendered =
      announce w quiet path >>= fun _ => openFile w path >>= fun _ =>
        .save (w.file path) path (rendered ++ ['\n']) := by
  unfold deliver
  rw [h]
  cases quiet <;> rfl

/-- Behind the announcement only opening and writing count. -/
theorem alike_deliver_to_file (h : io.outputFile? = some path) (quiet : Bool) (w : World)
    (rendered : Text) :
    (io.deliver quiet w rendered).Alike
      (openFile w path >>= fun _ => .save (w.file path) path (rendered ++ ['\n'])) := by
  rw [deliver_to_file h]
  exact (silent_announce w quiet path).bind_alike (result_announce w quiet path)

theorem alike_deliver_to_opened (hfile : io.outputFile? = some path)
    (hopened : (w.entry path).writable = .ok ()) (quiet : Bool) (rendered : Text) :
    (io.deliver quiet w rendered).Alike (.save (w.file path) path (rendered ++ ['\n'])) := by
  have hopen : (openFile w path).result = .ok () := by
    unfold openFile
    rw [hopened]
    rfl
  exact (alike_deliver_to_file hfile quiet w rendered).trans
    ((silent_openFile w path).bind_alike hopen)

/-- A result that gets where it is asked for is all there. -/
theorem Accepted.deliver (h : io.Accepted w rendered) (quiet : Bool) :
    (io.deliver quiet w rendered).result = .ok () ∧
      (io.deliver quiet w rendered).trace.written = io.delivered rendered := by
  unfold delivered
  cases h with
  | printed hfile htaken =>
    rw [deliver_to_output hfile, hfile, Run.print, htaken]
    exact ⟨rfl, rfl⟩
  | @saved path hfile hopened htaken =>
    have halike := alike_deliver_to_opened hfile hopened quiet rendered
    rw [halike.result, halike.written, hfile, Run.save, htaken]
    exact ⟨rfl, rfl⟩

/-- Otherwise the delivery fails, and there is what is left of the result. -/
theorem Undelivered.deliver (h : io.Undelivered w rendered output files) (quiet : Bool) :
    (∃ failure, (io.deliver quiet w rendered).result = .error failure) ∧
      (io.deliver quiet w rendered).trace.written = (output, files) := by
  cases h with
  | printing hfile hrefused =>
    rw [deliver_to_output hfile, Run.print, hrefused]
    exact ⟨⟨_, rfl⟩, rfl⟩
  | @opening path error hfile hrefused =>
    have hopen : ∃ failure, (openFile w path).result = .error failure := by
      unfold openFile
      rw [hrefused]
      exact ⟨_, rfl⟩
    obtain ⟨failure, hfailed⟩ := hopen
    have halike := alike_deliver_to_file hfile quiet w rendered
    rw [halike.result, halike.written]
    exact ⟨⟨failure, bind_eq_error.2 (.inl hfailed)⟩,
      silent_iff_written.1 ((silent_openFile w path).bind_failed hfailed)⟩
  | @saving path count error hfile hopened hrefused =>
    have halike := alike_deliver_to_opened hfile hopened quiet rendered
    rw [halike.result, halike.written, Run.save, hrefused]
    exact ⟨⟨_, rfl⟩, rfl⟩

theorem accepted_or_undelivered (io : IoOptions) (w : World) (rendered : Text) :
    io.Accepted w rendered ∨ ∃ output files, io.Undelivered w rendered output files := by
  cases hfile : io.outputFile? with
  | none =>
    cases hreply : w.output (rendered ++ ['\n']) with
    | taken => exact .inl (.printed hfile hreply)
    | refused count error => exact .inr ⟨_, _, .printing hfile hreply⟩
  | some path =>
    cases hwritable : (w.entry path).writable with
    | error error => exact .inr ⟨_, _, .opening hfile hwritable⟩
    | ok _ =>
      cases hreply : w.file path (rendered ++ ['\n']) with
      | taken => exact .inl (.saved hfile hwritable hreply)
      | refused count error => exact .inr ⟨_, _, .saving hfile hwritable hreply⟩

theorem deliver_eq_ok {quiet : Bool} (h : (io.deliver quiet w rendered).result = .ok ()) :
    (io.deliver quiet w rendered).trace.written = io.delivered rendered := by
  rcases accepted_or_undelivered io w rendered with haccepted | ⟨output, files, hleft⟩
  · exact (haccepted.deliver quiet).2
  · obtain ⟨failure, hfailed⟩ := (hleft.deliver quiet).1
    rw [h] at hfailed
    cases hfailed

end Delivering

end IoOptions

/-! ## Commands -/

namespace Request

variable {r : Request} {w : World} {policy : Policy} {value : Text} {transform : Transform}

/-- Is everything there that a command needs for its result? -/
structure Prepared (r : Request) (w : World) (policy : Policy) (value : Text)
    (transform : Transform) : Prop where
  resolved : (r.policy w).result = .ok policy
  read : (r.io.read w).result = .ok value
  built : Transform.build r.command.kind policy = .ok transform

theorem prepared_or_unprepared (r : Request) (w : World) :
    (∃ policy value transform, r.Prepared w policy value transform) ∨
      ∀ policy value transform, ¬ r.Prepared w policy value transform := by
  by_cases h : ∃ policy value transform, r.Prepared w policy value transform
  · exact .inl h
  · exact .inr fun policy value transform hprepared => h ⟨policy, value, transform, hprepared⟩

/-- Does the command tell a summary of an outcome that the standard error refuses? -/
structure SummaryRefused (r : Request) (w : World) (outcome : Outcome) : Prop where
  asked : r.io.summary
  told : r.quiet = false
  refused : ∃ count error,
    w.messages (summaryText false r.command.kind outcome.record?) = .refused count error

/-- Of what is done with a value only the conclusion fails or writes anything. -/
theorem alike_handle (h : Transform.build r.command.kind policy = .ok transform) (w : World)
    (value : Text) :
    (r.handle w policy value).Alike (r.conclude w policy value (transform.run value)) := by
  have hbuild : (Run.ofExcept (Transform.build r.command.kind policy)).result = .ok transform := h
  unfold handle
  refine ((silent_log _).bind_alike rfl).trans ?_
  refine ((silent_ofExcept _).bind_alike hbuild).trans ?_
  refine ((silent_log _).bind_alike rfl).trans ?_
  exact alike_bind_log _ _

theorem handle_of_unbuilt {failure : Failure}
    (h : Transform.build r.command.kind policy = .error failure) (w : World) (value : Text) :
    (r.handle w policy value).result = .error failure ∧ (r.handle w policy value).Silent := by
  have hbuild : (Run.ofExcept (Transform.build r.command.kind policy)).result = .error failure := h
  constructor
  · exact bind_eq_error.2 (.inr ⟨(), rfl, bind_eq_error.2 (.inl hbuild)⟩)
  · exact (silent_log _).bind fun _ => (silent_ofExcept _).bind_failed hbuild

/-- So it is with a whole command, once everything is there. -/
theorem Prepared.alike_run (h : r.Prepared w policy value transform) :
    (r.run w).Alike (r.conclude w policy value (transform.run value)) := by
  refine ((r.silent_policy w).bind_alike h.resolved).trans ?_
  refine ((r.io.silent_read w).bind_alike h.read).trans ?_
  exact alike_handle h.built w value

/-- Until everything is there, a command that fails has written nothing. -/
theorem run_of_unprepared (h : ∀ policy value transform, ¬ r.Prepared w policy value transform) :
    (∃ failure, (r.run w).result = .error failure) ∧ (r.run w).Silent := by
  cases hpolicy : (r.policy w).result with
  | error failure =>
    exact ⟨⟨failure, bind_eq_error.2 (.inl hpolicy)⟩, (r.silent_policy w).bind_failed hpolicy⟩
  | ok policy =>
    cases hvalue : (r.io.read w).result with
    | error failure =>
      refine ⟨⟨failure, bind_eq_error.2 (.inr ⟨policy, hpolicy, ?_⟩)⟩,
        (r.silent_policy w).bind fun _ => (r.io.silent_read w).bind_failed hvalue⟩
      exact bind_eq_error.2 (.inl hvalue)
    | ok value =>
      -- policy and value are there, so it is the transform that is missing
      cases hbuild : Transform.build r.command.kind policy with
      | ok transform => exact absurd ⟨hpolicy, hvalue, hbuild⟩ (h policy value transform)
      | error failure =>
        obtain ⟨hfailed, hsilent⟩ := handle_of_unbuilt hbuild w value
        have halike : (r.run w).Alike (r.handle w policy value) :=
          ((r.silent_policy w).bind_alike hpolicy).trans
            ((r.io.silent_read w).bind_alike hvalue)
        exact ⟨⟨failure, halike.result.trans hfailed⟩,
          silent_iff_written.2 (halike.written.trans (silent_iff_written.1 hsilent))⟩

theorem result_summarize_eq_ok_iff {outcome : Outcome} :
    (r.io.summarize r.quiet w r.command.kind outcome.record?).result = .ok () ↔
      ¬ r.SummaryRefused w outcome := by
  rw [IoOptions.result_summarize]
  constructor
  · rintro h ⟨hasked, htold, count, error, hrefused⟩
    rw [if_pos ⟨hasked, by simp [htold]⟩, hrefused] at h
    cases h
  · intro h
    split
    · next hsummary =>
      cases hreply : w.messages (summaryText false r.command.kind outcome.record?) with
      | taken => rfl
      | refused count error =>
        exact absurd ⟨hsummary.1, by simpa using hsummary.2, count, error, hreply⟩ h
    · rfl

theorem files_output (r : Request) (w : World) (policy : Policy) (value : Text)
    (outcome : Outcome) : (r.output w policy value outcome).trace.files = [] := by
  unfold output
  split <;> rfl

/-- What a conclusion writes: what is published, and behind it what is delivered. -/
theorem written_conclude {outcome : Outcome} {shown : Text}
    (h : (r.output w policy value outcome).result = .ok shown) :
    (r.conclude w policy value outcome).trace.written =
      (r.io.deliver r.quiet w (r.io.render shown outcome.record?)).trace.written.map
        ((r.output w policy value outcome).trace.output ++ ·) id := by
  unfold conclude
  rw [bind_of_ok h, Trace.written_append (r.files_output w policy value outcome)]
  rw [written_bind_of_silent fun _ => r.io.silent_summarize _ _ _ _]

/-- A command that comes to its end has written what it publishes, and behind it the result. -/
theorem exists_prepared_of_run_eq_ok (h : (r.run w).result = .ok ()) :
    ∃ policy value transform shown, r.Prepared w policy value transform ∧
      (r.output w policy value (transform.run value)).result = .ok shown ∧
      (r.run w).trace.written =
        (r.io.delivered (r.io.render shown (transform.run value).record?)).map
          ((r.output w policy value (transform.run value)).trace.output ++ ·) id := by
  rcases prepared_or_unprepared r w with ⟨policy, value, transform, hprepared⟩ | hunprepared
  · have halike := hprepared.alike_run
    obtain ⟨shown, hshown, hdone⟩ := bind_eq_ok.1 (halike.result.symm.trans h)
    obtain ⟨_, hdelivered, -⟩ := bind_eq_ok.1 hdone
    refine ⟨policy, value, transform, shown, hprepared, hshown, ?_⟩
    rw [halike.written, written_conclude hshown, IoOptions.deliver_eq_ok hdelivered]
  · obtain ⟨failure, hfailed⟩ := (run_of_unprepared hunprepared).1
    rw [h] at hfailed
    cases hfailed

/-- A failure is told on the standard error only, and log records go there as well. -/
theorem written_execute (wording : Wording) (r : Request) (w : World) :
    (r.execute wording w).2.written = (r.run w).trace.written := by
  unfold execute
  dsimp only
  split
  · rfl
  · simp [Trace.written, Run.tell]

theorem exitCode_execute (wording : Wording) (r : Request) (w : World) :
    exitCode (r.execute wording w).1 =
      match (r.run w).result with
      | .ok _ => 0
      | .error _ => failureCode := by
  unfold execute
  dsimp only
  cases (r.run w).result <;> rfl

theorem exitCode_execute_eq_zero_iff {wording : Wording} {r : Request} {w : World} :
    exitCode (r.execute wording w).1 = 0 ↔ (r.run w).result = .ok () := by
  rw [exitCode_execute]
  cases (r.run w).result with
  | error failure => simp [failureCode]
  | ok done => simp

theorem exitCode_execute_eq_failureCode_iff {wording : Wording} {r : Request} {w : World} :
    exitCode (r.execute wording w).1 = failureCode ↔
      ∃ failure, (r.run w).result = .error failure := by
  rw [exitCode_execute]
  cases (r.run w).result with
  | error failure => simp
  | ok done => simp [failureCode]

theorem exitCode_execute_eq_of_iff {wording : Wording} {r r' : Request} {w : World}
    (h : (r.run w).result = .ok () ↔ (r'.run w).result = .ok ()) :
    exitCode (r.execute wording w).1 = exitCode (r'.execute wording w).1 := by
  rw [exitCode_execute, exitCode_execute]
  cases hr : (r.run w).result with
  | ok _ => rw [h.1 hr]
  | error failure =>
    cases hr' : (r'.run w).result with
    | error failure' => rfl
    | ok _ =>
      rw [h.2 hr'] at hr
      cases hr

end Request

end ShellGuard
