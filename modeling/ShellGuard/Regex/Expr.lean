import ShellGuard.Unicode.Named

/-!
# Regular expressions — what a pattern matches once its flags are applied

An expression is made of character sets and conditions on positions.  Alternatives and repetitions
are ordered by preference: of two ways to match from the same start, the preferred one wins, not the
longer one.

## Main definitions

* `Look`, `Look.holds` — conditions on a position, decided by its two neighbours.
* `Expr`, `Expr.nullable`, `Expr.zeroWidth` — expressions and what they say about lengths.
-/

namespace ShellGuard.Regex

inductive WordEdge
  | either
  | neither
  | start
  | stop
  | startHalf
  | stopHalf
  deriving DecidableEq, Repr

inductive Look
  | textStart
  | textEnd
  | lineStart
  | lineEnd
  | lineStartCrlf
  | lineEndCrlf
  | word (unicode : Bool) (edge : WordEdge)
  deriving DecidableEq, Repr

/-- A position, as the characters before and after it. -/
structure Position where
  before : Option Char
  after : Option Char
  deriving DecidableEq, Repr

def asciiWord : CharSet :=
  ⟨[⟨0x30, 0x39⟩, ⟨0x41, 0x5A⟩, ⟨0x5F, 0x5F⟩, ⟨0x61, 0x7A⟩]⟩

def isWordSide (unicode : Bool) (c : Option Char) : Bool :=
  c.any (if unicode then CharSet.word.contains else asciiWord.contains)

/-- Does the edge lie between characters that are those of words, as `before` and `after` say? -/
def WordEdge.holds (before after : Bool) : WordEdge → Bool
  | .either => before != after
  | .neither => before == after
  | .start => !before && after
  | .stop => before && !after
  | .startHalf => !before
  | .stopHalf => !after

def Look.holds (p : Position) : Look → Bool
  | .textStart => p.before.isNone
  | .textEnd => p.after.isNone
  | .lineStart => p.before.all (· = '\n')
  | .lineEnd => p.after.all (· = '\n')
  | .lineStartCrlf =>
    p.before.isNone || p.before = some '\n' || (p.before = some '\r' && p.after ≠ some '\n')
  | .lineEndCrlf =>
    p.after.isNone || p.after = some '\r' || (p.after = some '\n' && p.before ≠ some '\r')
  | .word unicode edge => edge.holds (isWordSide unicode p.before) (isWordSide unicode p.after)

inductive Expr
  | empty
  | chars (set : CharSet)
  | look (condition : Look)
  | seq (left right : Expr)
  | alt (preferred other : Expr)
  | rep (inner : Expr) (min : Nat) (max : Option Nat) (greedy : Bool)
  | group (inner : Expr)
  deriving DecidableEq, Repr

namespace Expr

/-- May the expression match the empty text, conditions on the position aside? -/
def nullable : Expr → Bool
  | .empty => true
  | .chars set => set.isEmpty
  | .look _ => true
  | .seq left right => left.nullable && right.nullable
  | .alt preferred other => preferred.nullable || other.nullable
  | .rep inner min _ _ => min = 0 || inner.nullable
  | .group inner => inner.nullable

/-- Can the expression match nothing but the empty text? -/
def zeroWidth : Expr → Bool
  | .empty => true
  | .chars _ => false
  | .look _ => true
  | .seq left right => left.zeroWidth && right.zeroWidth
  | .alt preferred other => preferred.zeroWidth && other.zeroWidth
  | .rep inner _ max _ => max = some 0 || inner.zeroWidth
  | .group inner => inner.zeroWidth

def andThen : Expr → Expr → Expr
  | .empty, right => right
  | left, .empty => left
  | left, right => .seq left right

/-- A choice; a choice between characters is one set. -/
def orElse : Expr → Expr → Expr
  | .chars s, .chars t => .chars (s.union t)
  | preferred, other => .alt preferred other

/--
A repetition.  Repeating what has no width more than once adds nothing, a repetition of none is
empty, and a single one is what it repeats.
-/
def repeated (inner : Expr) (min : Nat) (max : Option Nat) (greedy : Bool) : Expr :=
  let (min, max) :=
    if inner.zeroWidth then (Nat.min min 1, some ((max.getD 1).min 1)) else (min, max)
  if max = some 0 then .empty
  else if min = 1 ∧ max = some 1 then inner
  else .rep inner min max greedy

def sets : Expr → List CharSet
  | .chars set => [set]
  | .seq left right => left.sets ++ right.sets
  | .alt preferred other => preferred.sets ++ other.sets
  | .rep inner _ _ _ => inner.sets
  | .group inner => inner.sets
  | _ => []

end Expr

end ShellGuard.Regex
