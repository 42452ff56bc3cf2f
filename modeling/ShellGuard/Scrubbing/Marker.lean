import ShellGuard.Shell.Character
import ShellGuard.Text.Visible

/-!
# Markers — what stands in the place of a removed symbol

A marker is spliced into command lines, so it may hold allowed characters only.  A number sign is
accepted too, but not in front, where it would start a comment.  Quotes and escape characters could
pair with those of the arguments, and are refused although arguments may hold them.

## Main definitions

* `Marker.default` — the marker that is used when none is configured.
* `Marker.fault?` — why a text is no marker, `none` if it is one.
-/

namespace ShellGuard.Marker

def default : Text :=
  ['_', '#', 'r', 'e', 'm', 'o', 'v', 'e', 'd', '#', '_']

inductive Fault
  | startsComment
  | holds (symbol : Char)
  deriving DecidableEq, Repr

def Fault.message : Fault → Text
  | .startsComment => "a leading '#' starts a shell comment"
  | .holds symbol => .concat ["contains unsafe symbol ", Visible.quotedChar symbol]

def isSafe (c : Char) : Bool :=
  !(['\x60', '\\', '\'', '"'].contains c) && (c = '#' || Shell.isAllowed c)

/-- What is wrong with a marker: a number sign in front, or else its first unsafe character. -/
def fault? (marker : Text) : Option Fault :=
  if marker.head? = some '#' then some .startsComment
  else (marker.find? fun c => !isSafe c).map .holds

end ShellGuard.Marker
