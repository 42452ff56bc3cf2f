import ShellGuard.Text.Basic

/-!
# Places — where a reader stands in a document

Indentation matters in a document, so a place knows its line and its column beside the text that is
still ahead.

## Main definitions

* `isBreak`, `isSpacing`, `isReadable`, `isWord` — the characters that the language tells apart.
* `Place`, `Place.skip`, `Place.lineBreak?` — a place, and the moves inside a line and to the next.
-/

namespace ShellGuard.Yaml

/-! ## Characters -/

def isBreak (c : Char) : Bool :=
  c = '\r' || c = '\n' || c = '\x85' || c = '\u2028' || c = '\u2029'

def isSpacing (c : Char) : Bool :=
  c = ' ' || c = '\t'

def isGap (c : Char) : Bool :=
  isSpacing c || isBreak c

def isWord (c : Char) : Bool :=
  c.isAlphanum || c = '_' || c = '-'

/-- Can the character stand in a document?  Controls cannot, nor can non-characters. -/
def isReadable (c : Char) : Bool :=
  c = '\t' || c = '\n' || c = '\r' || c = '\x85' || (' ' ≤ c && c ≤ '~') ||
    ('\xa0' ≤ c && c ≤ '\ufffd') || 0x10000 ≤ c.toNat

/-- Does a word end before `t`, at the end or at a gap? -/
def endsWord (t : Text) : Bool :=
  t.head?.all isGap

def startsWithAny (cs : Text) (t : Text) : Bool :=
  t.head?.any cs.contains

/-! ## Places -/

structure Place where
  /-- The text that is still ahead. -/
  rest : Text
  /-- The number of characters behind. -/
  index : Nat := 0
  line : Nat := 0
  column : Nat := 0
  deriving DecidableEq, Repr

namespace Place

/-- The place `n` characters further on in its line. -/
def skip (p : Place) (n : Nat) : Place :=
  { p with rest := p.rest.drop n, index := p.index + n, column := p.column + n }

/-- The characters ahead with `keep`, and the place behind them; none of them breaks a line. -/
def readWhile (p : Place) (keep : Char → Bool) : Text × Place :=
  let t := p.rest.takeWhile keep
  (t, p.skip t.length)

def skipWhile (p : Place) (keep : Char → Bool) : Place :=
  (p.readWhile keep).2

def nextLine (p : Place) (n : Nat) : Place :=
  { rest := p.rest.drop n, index := p.index + n, line := p.line + 1, column := 0 }

/-- The line break ahead and the place behind it.  All but the two of Unicode read as `\n`. -/
def lineBreak? (p : Place) : Option (Text × Place) :=
  match p.rest with
  | '\r' :: '\n' :: _ => some (['\n'], p.nextLine 2)
  | c :: _ =>
    if c = '\u2028' ∨ c = '\u2029' then some ([c], p.nextLine 1)
    else if isBreak c then some (['\n'], p.nextLine 1)
    else none
  | [] => none

/-- Is a line of three marks ahead, which starts or ends a document? -/
def atDocumentMark (p : Place) : Bool :=
  p.column = 0 &&
    match p.rest with
    | '-' :: '-' :: '-' :: t => endsWord t
    | '.' :: '.' :: '.' :: t => endsWord t
    | _ => false

def skipComment (p : Place) : Place :=
  if startsWithAny ['#'] p.rest then p.skipWhile (!isBreak ·) else p

end Place

end ShellGuard.Yaml
