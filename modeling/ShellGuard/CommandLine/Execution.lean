import ShellGuard.CommandLine.Overlay
import ShellGuard.CommandLine.Summary
import ShellGuard.Guard

/-!
# Executions — what a command line does

## Main definitions

* `IoOptions.read` — the value that is transformed.
* `IoOptions.deliver` — what is written of the result.
* `Request.run` — everything that a request does.
* `Request.execute`, `Request.exitCode` — the same, with a failure told to the user, and the exit
  code of that.
-/

namespace ShellGuard

namespace IoOptions

/-- The value: an argument as it is, or a file or the standard input without its last line break. -/
def read (io : IoOptions) (w : World) : Run Text :=
  match io.value?, io.inputFile? with
  | some value, _ => do
    .log [.debug (.concat ["Using positional value (", .ofNat value.byteSize, " bytes)."])]
    return value
  | none, some path => do
    .log [.debug (.concat ["Reading value from file: ", path])]
    let text ← (Run.ofExcept (w.read path)).within (.concat ["Failed to read input file: ", path])
    return text.dropLineEnd
  | none, none => do
    .log [.debug "Reading value from stdin."]
    let text ← (Run.ofExcept w.readInput).within "Failed to read input from stdin"
    return text.dropLineEnd

def render (io : IoOptions) (output : Text) (record? : Option Record) : Text :=
  if io.json then Jsonable.encode (Outcome.mk output record?) else output

/-- Writes the result to the file that is asked for, or to the standard output. -/
def deliver (io : IoOptions) (quiet : Bool) (w : World) (rendered : Text) : Run Unit :=
  match io.outputFile? with
  | none => .print w.output (rendered ++ ['\n'])
  | some path => do
    unless quiet do
      (Run.tell w.messages
        ((Message.info (.concat ["Writing output to file: ", path])).line false)).regardless
    -- The message is told before the file is opened.
    (Run.ofExcept ((w.entry path).writable.mapError Failure.ofIo)).within
      (.concat ["Failed to create output file: ", path])
    .save (w.file path) path (rendered ++ ['\n'])

/-- Tells what was altered, if that is asked for. -/
def summarize (io : IoOptions) (quiet : Bool) (w : World) (kind : TransformKind)
    (record? : Option Record) : Run Unit :=
  if io.summary ∧ ¬ quiet then .tell w.messages (summaryText false kind record?) else return ()

end IoOptions

def doneNote (kind : TransformKind) (value : Text) (outcome : Outcome) : LogRecord :=
  .debug (.concat
    ["Transform '", kind.name, "' done. Input length: ", .ofNat value.byteSize,
      ", output length: ", .ofNat outcome.text.byteSize, ", altered: ",
      if outcome.isAltered then "true" else "false"])

namespace Request

/-- The policy of a command; only sanitizing asks for one. -/
def policy (r : Request) (w : World) : Run Policy :=
  match r.command with
  | .sanitize options => options.resolve w
  | _ => return {}

/-- The value to show: sanitizing reports about it, and may keep the one that was given. -/
def output (r : Request) (w : World) (policy : Policy) (value : Text) (outcome : Outcome) :
    Run Text :=
  match r.command with
  | .sanitize _ =>
    (reportTo w.published policy.reporting value outcome).toRun.within "Failed to publish telemetry"
  | _ => return outcome.text

/-- Reports about an outcome, delivers the result, and tells what was altered. -/
def conclude (r : Request) (w : World) (policy : Policy) (value : Text) (outcome : Outcome) :
    Run Unit := do
  let output ← r.output w policy value outcome
  r.io.deliver r.quiet w (r.io.render output outcome.record?)
  r.io.summarize r.quiet w r.command.kind outcome.record?

def handle (r : Request) (w : World) (policy : Policy) (value : Text) : Run Unit := do
  let kind := r.command.kind
  .log [.info (.concat ["Starting '", kind.name, "' transform."])]
  let transform ← .ofExcept (Transform.build kind policy)
  let outcome := transform.run value
  .log (transform.notes value outcome ++ [doneNote kind value outcome])
  r.conclude w policy value outcome
  .log [.info (.concat ["'", kind.name, "' transform completed."])]

def run (r : Request) (w : World) : Run Unit := do
  let policy ← r.policy w
  let value ← r.io.read w
  r.handle w policy value

/-- The paths that a request reads, whatever is there. -/
def readPaths (r : Request) : List Path :=
  let config? : Option Path :=
    match r.command with
    | .sanitize options => options.config?
    | _ => none
  config?.toList ++ r.io.inputFile?.toList

/-- The paths at which a request looks for a file, and reads the first one. -/
def searchedPaths (r : Request) (w : World) : List Path :=
  match r.command with
  | .sanitize options => options.policy?.elim [] fun name => name :: Policy.candidates w name
  | _ => []

def readsInput (r : Request) : Bool :=
  r.io.value?.isNone && r.io.inputFile?.isNone

def verbosity (r : Request) : Verbosity :=
  .ofSwitches r.quiet r.debug

def failureCode : Nat := 2

def exitCode (failure? : Option Failure) : Nat :=
  if failure?.isSome then failureCode else 0

/-- What is left of a request: its failure if there is one, which is told, and all that was done. -/
def execute (wording : Wording) (r : Request) (w : World) : Option Failure × Trace :=
  let run := r.run w
  let trace := { run.trace with logs := run.trace.logs.filter fun l => r.verbosity.keeps l.level }
  match run.result with
  | .ok () => (none, trace)
  | .error failure =>
    let message := (Message.error (failure.message wording)).line false
    -- Nobody notices where the message does not get there.
    (some failure, trace ++ (Run.tell w.messages message).trace)

end Request

end ShellGuard
