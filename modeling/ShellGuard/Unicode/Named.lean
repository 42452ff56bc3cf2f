import ShellGuard.Unicode.Age
import ShellGuard.Unicode.Property
import ShellGuard.Unicode.ScriptExtension

/-!
# Named character sets — the sets that a pattern can ask for by name

A name is that of a property, a general category or a script; with a value it names the property
that the value belongs to.  Names are compared in loose form.

## Main definitions

* `CharSet.named?`, `CharSet.valued?` — the set of a name, and of a name with a value.
* `CharSet.digit`, `CharSet.blank`, `CharSet.word` — the sets behind the short class escapes.
-/

namespace ShellGuard

/--
The loose form of a name: small ASCII letters without blanks, hyphens, underscores and a leading
`is`.  The name `isc` keeps its beginning, because `c` alone is a category.
-/
def looseName (name : Text) : String :=
  let letters (t : Text) : Text :=
    (t.filter fun c => c.toNat < 0x80 && !(c == ' ' || c == '_' || c == '-')).map Char.toLower
  match name with
  | i :: s :: rest =>
    if i.toLower = 'i' ∧ s.toLower = 's' then
      if letters rest = ['c'] then "isc" else String.ofList (letters rest)
    else
      String.ofList (letters name)
  | _ => String.ofList (letters name)

namespace Category

/-- The members of the category, or group of categories, of a name in loose form. -/
def named? (name : String) : Option CharSet :=
  match name with
  | "any" => some .all
  | "assigned" => some assigned
  | "ascii" => some (.range 0 0x7F)
  | "c" | "other" => some others
  | "cn" | "unassigned" => some unassigned
  | "l" | "letter" => some letters
  | "lc" | "casedletter" => some casedLetters
  | "m" | "mark" | "combiningmark" => some marks
  | "n" | "number" => some numbers
  | "p" | "punctuation" | "punct" => some punctuation
  | "s" | "symbol" => some symbols
  | "z" | "separator" => some separators
  | "cntrl" => some ccSet
  | "digit" => some ndSet
  | _ => (all.find? fun c => c.shortName = name || c.longName = name).map set

end Category

namespace CharSet

/--
The set of a property, a category or a script.  Three names that are both a property's and a
category's mean the category.
-/
def named? (name : Text) : Option CharSet :=
  let loose := looseName name
  let property := if ["cf", "sc", "lc"].contains loose then none else CharProperty.named? loose
  property <|> Category.named? loose <|> (Script.named? loose).map Script.set

def valued? (name value : Text) : Option CharSet :=
  match looseName name with
  | "gc" | "generalcategory" => Category.named? (looseName value)
  | "sc" | "script" => (Script.named? (looseName value)).map Script.set
  | "scx" | "scriptextensions" => (Script.named? (looseName value)).map Script.extended
  | "age" => Age.assignedBy? (looseName value)
  | _ => none

def digit : CharSet := Category.ndSet

/-- Blanks, tabs and line breaks. -/
def blank : CharSet := CharProperty.whiteSpace

def word : CharSet :=
  .unions [CharProperty.alphabetic, Category.marks, Category.ndSet, Category.pcSet,
    CharProperty.joinControl]

end CharSet

def isBlank (c : Char) : Bool :=
  CharSet.blank.contains c

def isAlphabetic (c : Char) : Bool :=
  CharProperty.alphabetic.contains c

def isNumeric (c : Char) : Bool :=
  Category.numbers.contains c

end ShellGuard
