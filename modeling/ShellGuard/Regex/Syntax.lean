import ShellGuard.Text.Basic

/-!
# Pattern syntax — what a written pattern says, before its flags are applied

A pattern is read into a `Node`.  Case, line and character-set flags may be switched inside a
pattern, so a node does not yet say what it matches; `Regex.Meaning` decides that.

## Main definitions

* `Literal`, `ClassSet`, `Node` — characters, bracketed classes, patterns.
* `Node.depth` — how deeply a pattern nests, which is limited.
-/

namespace ShellGuard.Regex

inductive Flag
  | caseInsensitive
  | multiLine
  | dotMatchesNewLine
  | swapGreed
  | unicode
  | crlf
  | ignoreBlanks
  deriving DecidableEq, Repr

structure FlagSetting where
  flag : Flag
  on : Bool
  deriving DecidableEq, Repr

/-- A character; `byte` marks one written by two hexadecimal digits, which may mean a byte. -/
structure Literal where
  char : Char
  byte : Bool
  deriving DecidableEq, Repr

inductive Shorthand
  | digit
  | blank
  | word
  deriving DecidableEq, Repr

inductive PosixClass
  | alnum
  | alpha
  | ascii
  | blank
  | cntrl
  | digit
  | graph
  | lower
  | print
  | punct
  | space
  | upper
  | word
  | xdigit
  deriving DecidableEq, Repr

/-- A class asked for by name: a name alone, or a property with a value. -/
inductive NamedClass
  | plain (name : Text)
  | valued (property value : Text)
  deriving DecidableEq, Repr

inductive SetOperation
  | intersection
  | difference
  | symmetricDifference
  deriving DecidableEq, Repr

inductive ClassSet
  | empty
  | literal (l : Literal)
  | range (first last : Literal)
  | posix (negated : Bool) (name : PosixClass)
  | named (negated : Bool) (name : NamedClass)
  | shorthand (negated : Bool) (name : Shorthand)
  | bracketed (negated : Bool) (inner : ClassSet)
  | union (left right : ClassSet)
  | combine (operation : SetOperation) (left right : ClassSet)
  deriving DecidableEq, Repr

inductive Assertion
  | lineStart
  | lineEnd
  | textStart
  | textEnd
  | wordBoundary
  | notWordBoundary
  | wordStart
  | wordEnd
  | wordStartHalf
  | wordEndHalf
  deriving DecidableEq, Repr

/-- How often something repeats; `greedy` is as written. -/
structure Repetition where
  min : Nat
  max : Option Nat
  greedy : Bool
  deriving DecidableEq, Repr

inductive Node
  | empty
  /-- A switch of flags that lasts to the end of the group. -/
  | setFlags (settings : List FlagSetting)
  | literal (l : Literal)
  | dot
  | assertion (a : Assertion)
  | named (negated : Bool) (name : NamedClass)
  | shorthand (negated : Bool) (name : Shorthand)
  | bracketed (negated : Bool) (inner : ClassSet)
  | rep (times : Repetition) (inner : Node)
  /-- A group; a capturing one takes part in the size of the program. -/
  | group (captures : Bool) (settings : List FlagSetting) (inner : Node)
  | seq (left right : Node)
  | alt (left right : Node)
  deriving DecidableEq, Repr

/-! ## Depth -/

/-- The depth of a class; a union of several items is one level, however many they are. -/
def ClassSet.depthIn (inUnion : Bool) : ClassSet → Nat
  | .bracketed _ inner => 1 + depthIn false inner
  | .union left right => (if inUnion then 0 else 1) + max (depthIn true left) (depthIn false right)
  | .combine _ left right => 1 + max (depthIn false left) (depthIn false right)
  | _ => 0

/-- What a node stands directly in: a sequence and an alternative are one level for all parts. -/
inductive Parent
  | sequence
  | alternatives
  | other
  deriving DecidableEq, Repr

def Node.depthIn (parent : Parent) : Node → Nat
  | .bracketed _ inner => 1 + inner.depthIn false
  | .rep _ inner => 1 + depthIn .other inner
  | .group _ _ inner => 1 + depthIn .other inner
  | .seq left right =>
    (if parent = .sequence then 0 else 1) + max (depthIn .sequence left) (depthIn .other right)
  | .alt left right =>
    (if parent = .alternatives then 0 else 1) +
      max (depthIn .alternatives left) (depthIn .other right)
  | _ => 0

def Node.depth (n : Node) : Nat :=
  n.depthIn .other

end ShellGuard.Regex
