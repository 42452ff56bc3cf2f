import ShellGuard.Text.Basic

/-!
# JSON — values and their compact text

## Main definitions

* `Json` — a value.  A string whose escapes leave half of a surrogate pair has no text.
* `Json.quoted` — a text as a string literal: only quotes, backslashes and controls are escaped.
* `Json.render` — the text of a value without blanks.
-/

namespace ShellGuard

inductive Json
  | null
  | bool (value : Bool)
  /-- A number written as digits only. -/
  | natural (value : Nat)
  /-- Any other number, as it is written. -/
  | number (literal : Text)
  /-- A string; `none` for one that stands for no text. -/
  | string (text? : Option Text)
  | array (items : List Json)
  /-- The fields in the order in which they are written, with repetitions. -/
  | object (fields : List (Option Text × Json))
  deriving Repr

namespace Json

def ofText (t : Text) : Json :=
  .string (some t)

/-- The string of a text that may be missing; a missing one is null. -/
def ofText? (t : Option Text) : Json :=
  match t with
  | some t => ofText t
  | none => null

def field (name : Text) (value : Json) : Option Text × Json :=
  (some name, value)

/-! ## Text -/

def hexDigit (n : Nat) : Char :=
  (Nat.digitChar n)

def escaped (c : Char) : Text :=
  if c = '"' then ['\\', '"']
  else if c = '\\' then ['\\', '\\']
  else if c = '\x08' then ['\\', 'b']
  else if c = '\t' then ['\\', 't']
  else if c = '\n' then ['\\', 'n']
  else if c = '\x0c' then ['\\', 'f']
  else if c = '\r' then ['\\', 'r']
  else if c.toNat < 0x20 then
    ['\\', 'u', '0', '0', hexDigit (c.toNat / 16), hexDigit (c.toNat % 16)]
  else [c]

def quoted (t : Text) : Text :=
  ['"'] ++ t.flatMap escaped ++ ['"']

def commaSeparated (parts : List Text) : Text :=
  Text.joinWith [','] parts

mutual

/-- The text of a value without blanks. -/
def render : Json → Text
  | .null => ['n', 'u', 'l', 'l']
  | .bool true => ['t', 'r', 'u', 'e']
  | .bool false => ['f', 'a', 'l', 's', 'e']
  | .natural n => Text.ofNat n
  | .number literal => literal
  | .string t => quoted (t.getD [])
  | .array items => ['['] ++ commaSeparated (renderItems items) ++ [']']
  | .object fields => ['\x7b'] ++ commaSeparated (renderFields fields) ++ ['\x7d']

def renderItems : List Json → List Text
  | [] => []
  | item :: items => render item :: renderItems items

def renderFields : List (Option Text × Json) → List Text
  | [] => []
  | (name, value) :: fields =>
    (quoted (name.getD []) ++ [':'] ++ render value) :: renderFields fields

end

end Json

end ShellGuard
