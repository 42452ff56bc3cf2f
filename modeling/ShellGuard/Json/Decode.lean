import ShellGuard.Json.Basic

/-!
# Decoding JSON — the shapes that values of the library are read from

## Main definitions

* `Json.text?`, `Json.flag?`, `Json.count?` — leaves; a count is below 2⁶⁴.
* `Json.variant?` — the name of a case that carries nothing.
* `Json.fields?` — the fields of a structure, written as an object or as an array in their order.
-/

namespace ShellGuard.Json

def text? : Json → Option Text
  | .string t => t
  | _ => none

/-- The text of a string that may be missing: null is none. -/
def optionalText? : Json → Option (Option Text)
  | .null => some none
  | j => j.text?.map some

def flag? : Json → Option Bool
  | .bool b => some b
  | _ => none

/-- Counts are below this number. -/
def countBound : Nat := 0x10000000000000000

def count? : Json → Option Nat
  | .natural n => if n < countBound then some n else none
  | _ => none

/-- The name of a case: a string, or an object whose only field, named so, is null. -/
def variant? : Json → Option Text
  | .string t => t
  | .object [(name, .null)] => name
  | _ => none

/-- The value of the field `name`, with the names of other fields passed over. -/
def lookup (name : Text) (fields : List (Option Text × Json)) : Option Json :=
  (fields.find? fun f => f.1 = some name).map Prod.snd

/-- Is every name a text, and no name of `names` there twice? -/
def distinctFields (names : List Text) (fields : List (Option Text × Json)) : Bool :=
  fields.all (fun f => f.1.isSome) &&
    names.all fun name => (fields.filter fun f => f.1 = some name).length ≤ 1

/-- How a structure treats the fields that are not there. -/
inductive Missing
  /-- An object may leave out what may be null, an array nothing. -/
  | null
  /-- Anything may be left out, and has a value of its own then. -/
  | default
  deriving DecidableEq, Repr

/--
The values of the fields `names` of a structure, in that order.  Other fields are passed over; an
array gives the values in order, and may not be longer.
-/
def fields? (missing : Missing) (names : List Text) : Json → Option (List (Option Json))
  | .object fields =>
    if distinctFields names fields then some (names.map fun name => lookup name fields) else none
  | .array items =>
    if names.length < items.length then none
    else if missing = .null ∧ items.length < names.length then none
    else some (items.map some ++ List.replicate (names.length - items.length) none)
  | _ => none

/-- The decoded value of a field, or its own value where the field is missing. -/
def decodeOr {α : Type} (default : α) (decode : Json → Option α) : Option Json → Option α
  | none => some default
  | some j => decode j

end ShellGuard.Json
