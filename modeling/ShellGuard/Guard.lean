import ShellGuard.Report
import ShellGuard.Run

/-!
# Guarding — transforms and reports in one call

## Main definitions

* `transformOnce` — what a transform of a policy makes of a value.
* `guardArguments` — the arguments that a task should use, with everything reported about them.
-/

namespace ShellGuard

def transformOnce (kind : TransformKind) (policy : Policy) (value : Text) :
    Except Failure Outcome :=
  (Transform.build kind policy).map fun transform => transform.run value

namespace Report

/-- The report as a run: what is published goes to the output. -/
def toRun (r : Report) : Run Text where
  result := r.result.mapError Failure.ofIo
  trace := { logs := r.logs, output := r.published }

end Report

/--
The arguments that a task should use instead of `arguments`, with everything that the policy reports
about them.  `closed?` is the answer of a place to publish to that takes nothing any more.
-/
def guardArguments (closed? : Option IoError) (policy : Policy) (arguments : Text) : Run Text := do
  let transform ← .ofExcept (Transform.build .sanitize policy)
  let outcome := transform.run arguments
  .log (transform.notes arguments outcome)
  (report closed? policy.reporting arguments outcome).toRun.within
    "Failed to publish sanitizer telemetry"

end ShellGuard
