import ShellGuard.Policy.Reporting
import ShellGuard.System.Device
import ShellGuard.System.Path
import ShellGuard.Text.Utf8

/-!
# Worlds — what a run can ask the system

A run asks for variables, for what is at a path and for its standard input, and for everything that
it writes it is answered whether that got there.  All answers are there from the start, so a run is
a function of a world.

## Main definitions

* `Entry` — the answers about one path.
* `World`, `World.read` — all answers, and the text of a file.
* `World.home?`, `World.configHome?` — the directories of the user.
-/

namespace ShellGuard

/-- The answers of the system about one path. -/
structure Entry where
  /-- Is a regular file there? -/
  isFile : Bool
  /-- What a file says there. -/
  content : Except IoError Decoded
  /-- Can a file be opened there for writing?  It is created or emptied then. -/
  writable : Except IoError Unit

/-- What the system answers. -/
structure World where
  environment : Environment
  /-- The home of the user's account, which counts unless the environment names another. -/
  accountHome? : Option Path
  entry : Path → Entry
  input : Except IoError Decoded
  /-- The standard output, for the line that is published. -/
  published : Device := .taking
  /-- The standard output, for the result. -/
  output : Device := .taking
  /-- The standard error, for everything but log records. -/
  messages : Device := .taking
  /-- A file that was opened. -/
  file : Path → Device := fun _ => .taking

namespace Decoded

/-- The text, if all octets say text. -/
def text? (d : Decoded) : Except IoError Text :=
  if d.complete then .ok d.text else .error .notText

end Decoded

namespace World

def read (w : World) (path : Path) : Except Failure Text :=
  ((w.entry path).content >>= Decoded.text?).mapError Failure.ofIo

def readInput (w : World) : Except Failure Text :=
  (w.input >>= Decoded.text?).mapError Failure.ofIo

def home? (w : World) : Option Path :=
  match w.environment "HOME" with
  | some home => if home = [] then w.accountHome? else some home
  | none => w.accountHome?

/-- The directory for the user's configurations. -/
def configHome? (w : World) : Option Path :=
  match w.environment "XDG_CONFIG_HOME" with
  | some directory =>
    if Path.isAbsolute directory then some directory else w.home?.map (Path.join · ".config")
  | none => w.home?.map (Path.join · ".config")

end World

end ShellGuard
