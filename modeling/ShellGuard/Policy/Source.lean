import ShellGuard.Policy.Document
import ShellGuard.Run
import ShellGuard.System.World

/-!
# Policy sources — where policies come from

A policy is in a file, or it has a name, and then the first file with that name in a list of
directories counts.  Choosing the file comes first: a file that was chosen and is no usable policy
ends the search with a failure.

## Main definitions

* `Policy.candidates`, `Policy.choose?` — the paths of a name, and the one that counts.
* `Policy.load`, `Policy.loadNamed` — the policy of a file or of a name.
-/

namespace ShellGuard.Policy

/-- The directories that are searched for policies, the first one first. -/
def directories (w : World) : List Path :=
  let inHome := w.home?.map fun home => Path.join (Path.join home ".argsafe") "policies"
  let inConfig := w.configHome?.map fun home => Path.join (Path.join home "argsafe") "policies"
  let shared : List Path := ["/etc/argsafe/policies", "./config"]
  inHome.toList ++ inConfig.toList ++ shared

/-- The paths that a name can stand for, the first one first. -/
def candidates (w : World) (name : Text) : List Path :=
  (directories w).map fun directory => Path.join directory (name ++ ".yaml".toList)

/-- The path that a name stands for: the name itself or a candidate, if a file is there. -/
def choose? (w : World) (name : Text) : Option Path :=
  (name :: candidates w name).find? fun path => (w.entry path).isFile

/-- The policy of a text, which must be usable. -/
def ofFile (path : Path) (text : Text) : Except Failure Policy := do
  let policy ← (ofText text).mapError fun error =>
    (Failure.ofConfig error).within (.concat ["Failed to parse policy file ", path])
  policy.check.mapError fun error =>
    (Failure.ofConfig error).within (.concat ["Invalid policy in ", path])
  return policy

def ofPath (w : World) (path : Path) : Except Failure Policy := do
  let text ← (w.read path).mapError
    (Failure.within (.concat ["Failed to read policy file ", path]))
  ofFile path text

def load (w : World) (path : Path) : Run Policy := do
  .log [.info (.concat ["Loading policy from: ", path])]
  .ofExcept (ofPath w path)

def loadNamed (w : World) (name : Text) : Run Policy := do
  .log [.debug (.concat ["Attempting to load policy from: '", name, "'"])]
  match choose? w name with
  | some path => load w path
  | none => .ofExcept (.error (.ofCause (.unknownPolicy name)))

def loadStandard : Run Policy := do
  .log [.debug "Loading default policy from embedded string..."]
  return standard

end ShellGuard.Policy
