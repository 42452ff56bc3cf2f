import ShellGuard.Text.Basic

/-!
# Faults of YAML documents — why a text is no policy document
-/

namespace ShellGuard.Yaml

/-- Why a text is no document of the expected shape. -/
inductive Fault
  /-- The text breaks a rule of the language. -/
  | malformed
  /-- An alias refers to no anchor. -/
  | unknownAlias
  /-- There is more than one document. -/
  | manyDocuments
  /-- The document does not have the shape that is asked for. -/
  | mismatched
  deriving DecidableEq, Repr

def Fault.message : Fault → Text
  | .malformed => "the document is malformed"
  | .unknownAlias => "an alias refers to no anchor"
  | .manyDocuments => "there is more than one document"
  | .mismatched => "the document does not have the shape of a policy"

end ShellGuard.Yaml
