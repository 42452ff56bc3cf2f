import ShellGuard.Regex.Meaning
import ShellGuard.Regex.Reader
import ShellGuard.Regex.Search
import ShellGuard.Regex.Size

/-!
# Compiling patterns — from written text to a program, or the fault in it

## Main definitions

* `Fault` — why a text is no usable pattern.
* `compile` — the program of a pattern under the flags it starts with.
-/

namespace ShellGuard.Regex

inductive Fault
  | malformed
  | tooDeep
  | partOfCharacter
  | tooLarge
  deriving DecidableEq, Repr

def depthLimit : Nat := 250

def Fault.message : Fault → Text
  | .malformed => "the pattern is malformed"
  | .tooDeep => "the pattern nests too deeply"
  | .partOfCharacter => "the pattern could match a part of a character, or names no known class"
  | .tooLarge => "the compiled pattern would be too large"

def expression (flags : Flags) (pattern : Text) : Except Fault Expr :=
  match Node.ofText? pattern with
  | none => .error .malformed
  | some node =>
    if depthLimit < node.depth then .error .tooDeep
    else
      match node.meaning? flags with
      | none => .error .partOfCharacter
      | some (e, _) => .ok e

def compile (flags : Flags) (pattern : Text) : Except Fault Program := do
  let e ← expression flags pattern
  if e.fits then .ok (Program.ofExpr e) else .error .tooLarge

end ShellGuard.Regex
