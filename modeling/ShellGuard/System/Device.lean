import ShellGuard.Failure

/-!
# Devices — what becomes of a text that is written

A device takes a text, or refuses it with an error.  Where it refuses, a beginning of the text may
have got there already.

## Main definitions

* `Reply` — the answer to a text; `Reply.part` is what got there.
* `Device` — the answers to all texts; `Device.taking`, `Device.refusing` are the simplest ones.
-/

namespace ShellGuard

/-- The answer to a text that is written. -/
inductive Reply
  | taken
  /-- Only so many whole characters of the text got there. -/
  | refused (count : Nat) (error : IoError)
  deriving DecidableEq, Repr

namespace Reply

/-- What got there of a text. -/
def part (t : Text) : Reply → Text
  | .taken => t
  | .refused count _ => t.take count

def result : Reply → Except Failure Unit
  | .taken => .ok ()
  | .refused _ error => .error (.ofIo error)

end Reply

/-- What a device answers to a text.  A command writes every text once. -/
abbrev Device := Text → Reply

namespace Device

def taking : Device := fun _ => .taken

/-- Not one character of any text gets there. -/
def refusing (error : IoError) : Device := fun _ => .refused 0 error

end Device

end ShellGuard
