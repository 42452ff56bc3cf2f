import ShellGuard.Regex.Expr
import ShellGuard.Regex.Syntax

/-!
# The meaning of patterns — flags applied to what was written

Case, line and character-set flags turn a `Node` into an `Expr`.  Only expressions that match whole
characters have a meaning: with the Unicode flag off, whatever could match a single byte outside
ASCII is refused, and so are names of Unicode classes.

## Main definitions

* `Flags` — the flags in force, and `Flags.set`.
* `ClassSet.meaning?`, `Node.meaning?` — the set, or the expression, that was written.
-/

namespace ShellGuard.Regex

/-- The flags in force at a place of a pattern; blanks matter to the reader only. -/
structure Flags where
  caseInsensitive : Bool := false
  multiLine : Bool := false
  dotMatchesNewLine : Bool := false
  swapGreed : Bool := false
  unicode : Bool := true
  crlf : Bool := false
  deriving DecidableEq, Repr

namespace Flags

def set (flags : Flags) (setting : FlagSetting) : Flags :=
  match setting.flag with
  | .caseInsensitive => { flags with caseInsensitive := setting.on }
  | .multiLine => { flags with multiLine := setting.on }
  | .dotMatchesNewLine => { flags with dotMatchesNewLine := setting.on }
  | .swapGreed => { flags with swapGreed := setting.on }
  | .unicode => { flags with unicode := setting.on }
  | .crlf => { flags with crlf := setting.on }
  | .ignoreBlanks => flags

def setAll (flags : Flags) (settings : List FlagSetting) : Flags :=
  settings.foldl set flags

end Flags

/-! ## Sets -/

def asciiLetters : CharSet := ⟨[⟨0x41, 0x5A⟩, ⟨0x61, 0x7A⟩]⟩

/-- The set, with the ASCII letters that differ from a member in case only. -/
def closeUnderAsciiCase (s : CharSet) : CharSet :=
  let shifted (lo hi : Nat) (shift : Nat → Nat) : List CodeRange :=
    (s.inter (.range lo hi)).ranges.map fun r => ⟨shift r.lo, shift r.hi⟩
  .ofRanges (s.ranges ++ shifted 0x41 0x5A (· + 32) ++ shifted 0x61 0x7A (· - 32))

def Flags.foldCase (flags : Flags) (s : CharSet) : CharSet :=
  if !flags.caseInsensitive then s
  else if flags.unicode then s.closeUnderCase
  else closeUnderAsciiCase s

/-- The complement where it is asked for; without Unicode it could match a part of a character. -/
def Flags.negate? (flags : Flags) (negated : Bool) (s : CharSet) : Option CharSet :=
  if !negated then some s
  else if flags.unicode then some s.complement
  else none

def PosixClass.set : PosixClass → CharSet
  | .alnum => ⟨[⟨0x30, 0x39⟩, ⟨0x41, 0x5A⟩, ⟨0x61, 0x7A⟩]⟩
  | .alpha => asciiLetters
  | .ascii => .range 0 0x7F
  | .blank => ⟨[⟨0x09, 0x09⟩, ⟨0x20, 0x20⟩]⟩
  | .cntrl => ⟨[⟨0x00, 0x1F⟩, ⟨0x7F, 0x7F⟩]⟩
  | .digit => .range 0x30 0x39
  | .graph => .range 0x21 0x7E
  | .lower => .range 0x61 0x7A
  | .print => .range 0x20 0x7E
  | .punct => ⟨[⟨0x21, 0x2F⟩, ⟨0x3A, 0x40⟩, ⟨0x5B, 0x60⟩, ⟨0x7B, 0x7E⟩]⟩
  | .space => ⟨[⟨0x09, 0x0D⟩, ⟨0x20, 0x20⟩]⟩
  | .upper => .range 0x41 0x5A
  | .word => asciiWord
  | .xdigit => ⟨[⟨0x30, 0x39⟩, ⟨0x41, 0x46⟩, ⟨0x61, 0x66⟩]⟩

def Shorthand.set (unicode : Bool) : Shorthand → CharSet
  | .digit => if unicode then .digit else PosixClass.digit.set
  | .blank => if unicode then .blank else PosixClass.space.set
  | .word => if unicode then .word else PosixClass.word.set

def NamedClass.set? : NamedClass → Option CharSet
  | .plain name => CharSet.named? name
  | .valued property value => CharSet.valued? property value

/-- The set of a named class under the flags; it takes Unicode. -/
def Flags.named? (flags : Flags) (negated : Bool) (name : NamedClass) : Option CharSet := do
  if flags.unicode then flags.negate? negated (flags.foldCase (← name.set?)) else none

/-- The set of a short escape under the flags; such sets hold both cases already. -/
def Flags.shorthand? (flags : Flags) (negated : Bool) (name : Shorthand) : Option CharSet :=
  flags.negate? negated (name.set flags.unicode)

/-- May the literal stand for its character?  Without Unicode, a high byte may not. -/
def Flags.accepts (flags : Flags) (l : Literal) : Bool :=
  flags.unicode || !l.byte || l.char.toNat < 0x80

/-- May the literal stand in a class?  Without Unicode, only ASCII may. -/
def Flags.acceptsInClass (flags : Flags) (l : Literal) : Bool :=
  flags.unicode || l.char.toNat < 0x80

def SetOperation.apply : SetOperation → CharSet → CharSet → CharSet
  | .intersection, s, t => s.inter t
  | .difference, s, t => s.diff t
  | .symmetricDifference, s, t => s.symmDiff t

/-- The members of a class; case is folded before a complement is taken. -/
def ClassSet.meaning? (flags : Flags) : ClassSet → Option CharSet
  | .empty => some .empty
  | .literal l => if flags.acceptsInClass l then some (.single l.char) else none
  | .range first last =>
    if flags.acceptsInClass first && flags.acceptsInClass last then
      some (.range first.char.toNat last.char.toNat)
    else
      none
  | .posix negated name => flags.negate? negated (flags.foldCase name.set)
  | .named negated name => flags.named? negated name
  | .shorthand negated name => flags.shorthand? negated name
  | .bracketed negated inner => do
    flags.negate? negated (flags.foldCase (← inner.meaning? flags))
  | .union left right => do
    return (← left.meaning? flags).union (← right.meaning? flags)
  | .combine operation left right => do
    let left ← left.meaning? flags
    let right ← right.meaning? flags
    return operation.apply (flags.foldCase left) (flags.foldCase right)

/-! ## Expressions -/

def Flags.look (flags : Flags) : Assertion → Look
  | .lineStart =>
    if !flags.multiLine then .textStart else if flags.crlf then .lineStartCrlf else .lineStart
  | .lineEnd =>
    if !flags.multiLine then .textEnd else if flags.crlf then .lineEndCrlf else .lineEnd
  | .textStart => .textStart
  | .textEnd => .textEnd
  | .wordBoundary => .word flags.unicode .either
  | .notWordBoundary => .word flags.unicode .neither
  | .wordStart => .word flags.unicode .start
  | .wordEnd => .word flags.unicode .stop
  | .wordStartHalf => .word flags.unicode .startHalf
  | .wordEndHalf => .word flags.unicode .stopHalf

/-- What the dot stands for: any character, or any but those that end a line. -/
def Flags.dot? (flags : Flags) : Option CharSet :=
  if !flags.unicode then none
  else if flags.dotMatchesNewLine then some .all
  else if flags.crlf then some (CharSet.complement ⟨[⟨0x0A, 0x0A⟩, ⟨0x0D, 0x0D⟩]⟩)
  else some (CharSet.single '\n').complement

/-- The expression of a node, and the flags in force behind it. -/
def Node.meaning? : Node → Flags → Option (Expr × Flags)
  | .empty, flags => some (.empty, flags)
  | .setFlags settings, flags => some (.empty, flags.setAll settings)
  | .literal l, flags =>
    if flags.accepts l then some (.chars (flags.foldCase (.single l.char)), flags) else none
  | .dot, flags => flags.dot?.map fun set => (.chars set, flags)
  | .assertion a, flags => some (.look (flags.look a), flags)
  | .named negated name, flags => (flags.named? negated name).map fun set => (.chars set, flags)
  | .shorthand negated name, flags =>
    (flags.shorthand? negated name).map fun set => (.chars set, flags)
  | .bracketed negated inner, flags => do
    let set ← flags.negate? negated (flags.foldCase (← inner.meaning? flags))
    return (.chars set, flags)
  | .rep times inner, flags => do
    let (e, flags) ← inner.meaning? flags
    return (e.repeated times.min times.max (times.greedy != flags.swapGreed), flags)
  | .group captures settings inner, flags => do
    let (e, _) ← inner.meaning? (flags.setAll settings)
    return (if captures then .group e else e, flags)
  | .seq left right, flags => do
    let (e, flags) ← left.meaning? flags
    let (f, flags) ← right.meaning? flags
    return (e.andThen f, flags)
  | .alt left right, flags => do
    let (e, flags) ← left.meaning? flags
    let (f, flags) ← right.meaning? flags
    return (e.orElse f, flags)

end ShellGuard.Regex
