import ShellGuard.Yaml.Scalar

/-!
# Tags and directives — the types that a document gives to its nodes

A tag is written as a handle and a suffix.  A directive at the head of a document says which text a
handle stands for; two handles stand for something without one.

## Main definitions

* `TagText` — the text of a tag, and `readUri?`, its characters at a place.
* `readTag?` — a tag as a handle and a suffix.
* `Directive`, `readDirective?` — a line at the head of a document.
-/

namespace ShellGuard.Yaml

/-- The text of a tag; `none` stands for escaped octets that are no character. -/
abbrev TagText := List (Option Char)

def TagText.ofText (t : Text) : TagText :=
  t.map some

/-! ## Escaped octets -/

/-- The octet that is written as a percent sign and two digits. -/
def escapedOctet? : Text → Option Nat
  | '%' :: a :: b :: _ => do return (← CharSet.hexDigit? a) * 16 + (← CharSet.hexDigit? b)
  | _ => none

/-- The number of octets that follow a first one, its bits, and the least code written so. -/
def leadingOctet? (octet : Nat) : Option (Nat × Nat × Nat) :=
  if octet < 0x80 then some (0, octet, 0)
  else if octet / 0x20 = 0x6 then some (1, octet % 0x20, 0x80)
  else if octet / 0x10 = 0xE then some (2, octet % 0x10, 0x800)
  else if octet / 0x8 = 0x1E then some (3, octet % 0x8, 0x10000)
  else none

/-- The code that `count` more octets complete, and the place behind them. -/
def trailingOctets? : (count code : Nat) → Place → Option (Nat × Place)
  | 0, code, p => some (code, p)
  | count + 1, code, p => do
    let octet ← escapedOctet? p.rest
    if octet / 0x40 = 0x2 then trailingOctets? count (code * 0x40 + octet % 0x40) (p.skip 3)
    else none

def escapedChar? (p : Place) : Option (Option Char × Place) := do
  let (count, bits, least) ← leadingOctet? (← escapedOctet? p.rest)
  let (code, p) ← trailingOctets? count bits (p.skip 3)
  return (if least ≤ code then charOfCode? code else none, p)

/-! ## Tags -/

/-- Can the character stand in a tag?  Three more can where no bracket would be mistaken for it. -/
def isUri (wide : Bool) (c : Char) : Bool :=
  isWord c || ";/?:@&=+$.%!~*'()".toList.contains c || (wide && ",[]".toList.contains c)

/-- The characters of a tag ahead.  `fuel` bounds them by the text's length. -/
def readUri? (wide : Bool) : (fuel : Nat) → Place → Option (TagText × Place)
  | 0, _ => none
  | fuel + 1, p =>
    match p.rest with
    | [] => some ([], p)
    | c :: _ =>
      if ¬ isUri wide c then some ([], p)
      else do
        let (c?, p) ← if c = '%' then escapedChar? p else some (some c, p.skip 1)
        let (uri, p) ← readUri? wide fuel p
        return (c? :: uri, p)

def readSomeUri? (wide : Bool) (p : Place) : Option (TagText × Place) := do
  let (uri, p) ← readUri? wide (p.rest.length + 1) p
  if uri.isEmpty then none else some (uri, p)

/-- An exclamation mark, the word behind it, and another mark behind that if there is one. -/
def readHandle? (p : Place) : Option (Text × Place) :=
  if startsWithAny ['!'] p.rest then
    let (word, p) := (p.skip 1).readWhile isWord
    if startsWithAny ['!'] p.rest then some ('!' :: word ++ ['!'], p.skip 1)
    else some ('!' :: word, p)
  else
    none

structure WrittenTag where
  /-- What stands for another text, empty for a tag that is written in full. -/
  handle : Text
  suffix : TagText
  deriving DecidableEq, Repr

/-- The tag of which nothing but an exclamation mark is written. -/
def WrittenTag.bare : WrittenTag := ⟨[], [some '!']⟩

/-- Does a text start and end with different exclamation marks? -/
def isNamedHandle (handle : Text) : Bool :=
  2 ≤ handle.length && handle.getLast? = some '!'

/-- A tag that is written in full between angles, whose exclamation mark is ahead. -/
def readFullTag? (p : Place) : Option (WrittenTag × Place) := do
  let (uri, p) ← readSomeUri? true (p.skip 2)
  if startsWithAny ['>'] p.rest then some (⟨[], uri⟩, p.skip 1) else none

def readShortTag? (p : Place) : Option (WrittenTag × Place) := do
  let (handle, p) ← readHandle? p
  if isNamedHandle handle then
    let (uri, p) ← readSomeUri? false p
    return (⟨handle, uri⟩, p)
  else
    let (uri, p) ← readUri? false (p.rest.length + 1) p
    let suffix := TagText.ofText (handle.drop 1) ++ uri
    return (if suffix.isEmpty then .bare else ⟨['!'], suffix⟩, p)

def readTag? (inFlow : Bool) (p : Place) : Option (WrittenTag × Place) := do
  let (tag, p) ← if startsWithAny ['<'] (p.rest.drop 1) then readFullTag? p else readShortTag? p
  if endsWord p.rest || (inFlow && startsWithAny [','] p.rest) then some (tag, p) else none

/-! ## Directives -/

inductive Directive
  /-- The version of the language. -/
  | version (major minor : Nat)
  /-- The text that a handle stands for. -/
  | handle (handle : Text) (start : TagText)
  deriving DecidableEq, Repr

/-- A number of one to nine digits. -/
def readVersionNumber? (p : Place) : Option (Nat × Place) :=
  let (digits, p) := p.readWhile Char.isDigit
  if digits.isEmpty || 9 < digits.length then none
  else some (digits.foldl (fun n c => n * 10 + (c.toNat - '0'.toNat)) 0, p)

/-- A version, as two numbers with a point between them. -/
def readVersion? (p : Place) : Option (Directive × Place) := do
  let (major, p) ← readVersionNumber? p
  if startsWithAny ['.'] p.rest then
    let (minor, p) ← readVersionNumber? (p.skip 1)
    return (.version major minor, p)
  else
    none

/-- A handle and the text that it stands for, with blanks between them. -/
def readHandleMeaning? (p : Place) : Option (Directive × Place) := do
  let (handle, p) ← readHandle? p
  if handle = ['!'] ∨ isNamedHandle handle then
    if p.rest.head?.any isSpacing then
      let (start, p) ← readSomeUri? true (p.skipWhile isSpacing)
      if endsWord p.rest then some (.handle handle start, p) else none
    else
      none
  else
    none

/-- The directive whose percent sign is behind, and the place at the start of the next line. -/
def readDirective? (p : Place) : Option (Directive × Place) := do
  let (name, p) := p.readWhile isWord
  if ¬ endsWord p.rest then none
  else
    let p := p.skipWhile isSpacing
    let (directive, p) ←
      if name = ['Y', 'A', 'M', 'L'] then readVersion? p
      else if name = ['T', 'A', 'G'] then readHandleMeaning? p
      else none
    let p := (p.skipWhile isSpacing).skipComment
    if p.rest.isEmpty then some (directive, p)
    else do
      let (_, p) ← p.lineBreak?
      return (directive, p)

end ShellGuard.Yaml
