import ShellGuard.Regex.Expr

/-!
# Programs — expressions as instructions for a machine with threads

An instruction reads a character, tests the position, or forks into two threads of which the first
is preferred.  A program is laid out from its end: the code of an expression is told where to go on.

## Main definitions

* `Instr`, `Program` — instructions, and code with the place to start at.
* `Expr.emit` — adds the code of an expression, and answers where it starts.
* `Program.ofExpr` — the program of an expression.
-/

namespace ShellGuard.Regex

/-- An instruction; places are positions in the code. -/
inductive Instr
  | chars (set : CharSet) (next : Nat)
  | look (condition : Look) (next : Nat)
  | fork (preferred other : Nat)
  | accept
  | fail
  deriving DecidableEq, Repr, Inhabited

structure Program where
  code : Array Instr
  start : Nat
  deriving Repr

/-- Code under construction, and the place at which the part laid out last starts. -/
structure Layout where
  code : Array Instr
  start : Nat

namespace Layout

/-- Adds an instruction, which starts the layout now. -/
def push (l : Layout) (i : Instr) : Layout :=
  ⟨l.code.push i, l.code.size⟩

/-- A fork between `here` and going on at `next`, in the order that greed asks for. -/
def forkOf (greedy : Bool) (here next : Nat) : Instr :=
  if greedy then .fork here next else .fork next here

/-- Adds a part `count` times, each copy going on at the copy before. -/
def times (part : Layout → Layout) : (count : Nat) → Layout → Layout
  | 0, l => l
  | count + 1, l => times part count (part l)

/-- Adds a part that may be left out; without it the code goes on at `next`. -/
def optional (part : Layout → Layout) (greedy : Bool) (next : Nat) (l : Layout) : Layout :=
  let l := part l
  l.push (forkOf greedy l.start next)

/--
Adds a part that repeats at least once: behind it stands a fork that goes back to its start or on to
where the layout started before.
-/
def atLeastOnce (part : Layout → Layout) (greedy : Bool) (l : Layout) : Layout :=
  let place := l.code.size
  let body := part ⟨l.code.push .fail, place⟩
  ⟨body.code.setIfInBounds place (forkOf greedy body.start l.start), body.start⟩

/-- Adds a part that repeats any number of times, and takes up room when it does. -/
def anyTimes (part : Layout → Layout) (greedy : Bool) (l : Layout) : Layout :=
  let place := l.code.size
  let body := part ⟨l.code.push .fail, place⟩
  ⟨body.code.setIfInBounds place (forkOf greedy body.start l.start), place⟩

end Layout

def Expr.emit : Expr → Layout → Layout
  | .empty, l => l
  | .chars set, l => l.push (.chars set l.start)
  | .look condition, l => l.push (.look condition l.start)
  | .seq left right, l => left.emit (right.emit l)
  | .alt preferred other, l =>
    let second := other.emit l
    let first := preferred.emit ⟨second.code, l.start⟩
    first.push (.fork first.start second.start)
  | .rep inner min max greedy, l =>
    let part (l : Layout) : Layout := inner.emit l
    match max with
    | none =>
      match min with
      | 0 =>
        if inner.nullable then
          (Layout.optional (Layout.atLeastOnce part greedy) greedy l.start) l
        else
          Layout.anyTimes part greedy l
      | min + 1 => Layout.times part min (Layout.atLeastOnce part greedy l)
    | some max =>
      Layout.times part min (Layout.times (Layout.optional part greedy l.start) (max - min) l)
  | .group inner, l => inner.emit l

def Program.ofExpr (e : Expr) : Program :=
  let l := e.emit ⟨#[.accept], 0⟩
  ⟨l.code, l.start⟩

end ShellGuard.Regex
