import ShellGuard.Yaml.Node

/-!
# Decoding YAML — the shapes that values of the library are read from

Plain scalars have no type of their own: what is asked for decides how one is read.  Aliases read as
the nodes that they stand for.

## Main definitions

* `Document.text?`, `Document.flag?`, `Document.variant?` — leaves.
* `Document.optional?` — a value that may be null.
* `Document.fields?` — the fields of a structure.
-/

namespace ShellGuard.Yaml

/-! ## Scalars -/

namespace Scalar

def saysNull (s : Scalar) : Bool :=
  ["null".toList, "Null".toList, "NULL".toList, "~".toList].contains s.text

/-- Is nothing written, or a word for null? -/
def isNull (s : Scalar) : Bool :=
  s.style = .plain && (s.text.isEmpty || s.saysNull)

def nullTag : TagText := .ofText "tag:yaml.org,2002:null"

def boolTag : TagText := .ofText "tag:yaml.org,2002:bool"

/-- Is a value there?  The tag for null stands only before a word for it. -/
def isPresent? (s : Scalar) : Option Bool :=
  if s.style ≠ .plain then some true
  else
    match s.tag? with
    | none => some !s.isNull
    | some tag =>
      if tag ≠ nullTag then some true
      else if s.saysNull then some false
      else none

/-- The value of a boolean, in lower case, in capitals or with one. -/
def flag? (s : Scalar) : Option Bool :=
  if s.style = .plain ∨ (s.style = .literal ∧ s.tag? = some boolTag) then
    if ["true".toList, "True".toList, "TRUE".toList].contains s.text then some true
    else if ["false".toList, "False".toList, "FALSE".toList].contains s.text then some false
    else none
  else
    none

def localTag? (s : Scalar) : Option Text :=
  match s.tag? with
  | some (some '!' :: word) => word.mapM id
  | _ => none

/-- The name of a case that carries nothing: a text, or a tag with nothing behind it. -/
def variant? (s : Scalar) : Option Text :=
  match s.localTag? with
  | some name => if s.isNull then some name else none
  | none => some s.text

end Scalar

/-! ## Nodes -/

namespace Document

def scalar? (d : Document) (node : Node) : Option Scalar :=
  match d.resolve? node with
  | some (.scalar s) => some s
  | _ => none

/-- The text of a scalar, however it is written. -/
def text? (d : Document) (node : Node) : Option Text :=
  (d.scalar? node).map Scalar.text

def flag? (d : Document) (node : Node) : Option Bool := do
  (← d.scalar? node).flag?

def variant? (d : Document) (node : Node) : Option Text := do
  (← d.scalar? node).variant?

def optional? {α : Type} (d : Document) (decode : Node → Option α) (node : Node) :
    Option (Option α) := do
  match d.scalar? node with
  | some s => if ← s.isPresent? then (decode node).map some else return none
  | none => (decode node).map some

/-- The entries of a mapping by their keys; a node that is left out is a mapping without entries. -/
def entries? (d : Document) (node : Node) : Option (List (Text × Node)) := do
  match ← d.resolve? node with
  | .mapping entries => entries.mapM fun (key, value) => do return (← d.text? key, value)
  | .scalar s => if s.style = .plain ∧ s.text.isEmpty then some [] else none
  | _ => none

/--
The values of the fields `names` of a structure, in that order.  Any may be missing, none may be
there twice, and other fields are passed over.
-/
def fields? (d : Document) (names : List Text) (node : Node) : Option (List (Option Node)) := do
  let entries ← d.entries? node
  names.mapM fun name =>
    match entries.filter fun entry => entry.1 = name with
    | [] => some none
    | [(_, value)] => some (some value)
    | _ => none

end Document

/-- The decoded value of a field, or its own value where the field is missing. -/
def decodeOr {α : Type} (default : α) (decode : Node → Option α) : Option Node → Option α
  | none => some default
  | some node => decode node

end ShellGuard.Yaml
