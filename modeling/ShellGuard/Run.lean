import ShellGuard.Logging
import ShellGuard.System.Device
import ShellGuard.System.Path

/-!
# Runs — results together with what was done on the way

What a run has logged and written stays when it fails later on, so a run is a result beside a trace.

## Main definitions

* `Trace` — what was logged and written.
* `Run` — a result and a trace; runs follow each other until one fails.
-/

namespace ShellGuard

structure Trace where
  logs : List LogRecord := []
  /-- The text on the standard output. -/
  output : Text := []
  /-- The text on the standard error, apart from log records. -/
  messages : Text := []
  /-- The files that were opened for writing, with all that got there. -/
  files : List (Path × Text) := []
  deriving DecidableEq, Repr

namespace Trace

def append (a b : Trace) : Trace where
  logs := a.logs ++ b.logs
  output := a.output ++ b.output
  messages := a.messages ++ b.messages
  files := a.files ++ b.files

instance : Append Trace := ⟨append⟩

end Trace

structure Run (α : Type) where
  result : Except Failure α
  trace : Trace := {}

namespace Run

def pure {α : Type} (a : α) : Run α := ⟨.ok a, {}⟩

/-- One run behind another, unless the first one failed. -/
def bind {α β : Type} (r : Run α) (f : α → Run β) : Run β :=
  match r.result with
  | .ok a => ⟨(f a).result, r.trace ++ (f a).trace⟩
  | .error failure => ⟨.error failure, r.trace⟩

instance : Monad Run where
  pure := pure
  bind := bind

def ofExcept {α : Type} (result : Except Failure α) : Run α := ⟨result, {}⟩

def leave (trace : Trace) : Run Unit := ⟨.ok (), trace⟩

def log (records : List LogRecord) : Run Unit := leave { logs := records }

/-- Writes to the standard output. -/
def print (device : Device) (text : Text) : Run Unit :=
  ⟨(device text).result, { output := (device text).part text }⟩

/-- Writes to the standard error. -/
def tell (device : Device) (text : Text) : Run Unit :=
  ⟨(device text).result, { messages := (device text).part text }⟩

/-- Writes a file that was opened. -/
def save (device : Device) (path : Path) (text : Text) : Run Unit :=
  ⟨(device text).result, { files := [(path, (device text).part text)] }⟩

/-- The run, whose failure nobody notices. -/
def regardless (r : Run Unit) : Run Unit := leave r.trace

/-- The run, with its failure seen from a step around it. -/
def within {α : Type} (step : Text) (r : Run α) : Run α :=
  { r with result := r.result.mapError (Failure.within step) }

end Run

end ShellGuard
