import ShellGuard.Regex.Expr

/-!
# The size of a program — a bound on what a pattern may ask for

Counted repetition lets a short pattern ask for a huge program, so a pattern is measured before it
is compiled.  The measure is the memory of an automaton over UTF-8 bytes, once reading forwards and
once reading backwards, in which every state takes 32 bytes and its exits are counted on top.

## Main definitions

* `Utf8.sequences` — the byte sequences of a range of code points, as ranges of bytes.
* `Direction.setSize`, `Expr.sizeIn` — the memory of a character set, and of an expression.
* `Expr.fits` — does an expression keep within the limit?
-/

namespace ShellGuard.Regex

/-! ## Byte sequences -/

namespace Utf8

structure ByteRange where
  lo : Nat
  hi : Nat
  deriving DecidableEq, Repr

/-- A code point below the surrogates or above them, as its bytes in UTF-8. -/
def encode (code : Nat) : List Nat :=
  if code < 0x80 then [code]
  else if code < 0x800 then [0xC0 + code / 0x40, 0x80 + code % 0x40]
  else if code < 0x10000 then
    [0xE0 + code / 0x1000, 0x80 + code / 0x40 % 0x40, 0x80 + code % 0x40]
  else
    [0xF0 + code / 0x40000, 0x80 + code / 0x1000 % 0x40, 0x80 + code / 0x40 % 0x40,
      0x80 + code % 0x40]

/--
Where the range from `lo` to `hi` has to be cut for its parts to be products of byte ranges: the
last code point of the lower part.
-/
def cut? (lo hi : Nat) : Option Nat :=
  let lengthEnd? := [0x7F, 0x7FF, 0xFFFF].find? fun m => lo ≤ m && m < hi
  match lengthEnd? with
  | some m => some m
  | none =>
    if hi < 0x80 then none
    else
      -- Both ends must agree in all bytes but the last, or cover whole blocks of what follows.
      [0x40, 0x1000, 0x40000].findSome? fun block =>
        if lo / block = hi / block then none
        else if lo % block ≠ 0 then some (lo - lo % block + block - 1)
        else if hi % block ≠ block - 1 then some (hi - hi % block - 1)
        else none

/-- The byte sequences of a range without surrogates; `fuel` bounds the cuts of one range. -/
def sequencesOf : (fuel : Nat) → (lo hi : Nat) → List (List ByteRange)
  | 0, _, _ => []
  | fuel + 1, lo, hi =>
    if hi < lo then []
    else
      match cut? lo hi with
      | some m => sequencesOf fuel lo m ++ sequencesOf fuel (m + 1) hi
      | none => [(encode lo).zipWith ByteRange.mk (encode hi)]

/-- The byte sequences of a range of code points; surrogates have none. -/
def sequences (r : CodeRange) : List (List ByteRange) :=
  sequencesOf 32 r.lo (min r.hi 0xD7FF) ++ sequencesOf 32 (max r.lo 0xE000) r.hi

/-! ## States for byte sequences -/

/-- What follows each first range, in a list in which equal first ranges are neighbours. -/
def branches : List (List ByteRange) → List (ByteRange × List (List ByteRange))
  | [] => []
  | [] :: rest => branches rest
  | (first :: tail) :: rest =>
    match branches rest with
    | (next, tails) :: more =>
      if next = first then (first, tail :: tails) :: more
      else (first, [tail]) :: (next, tails) :: more
    | [] => [(first, [tail])]

/-- The places behind each first range that are not the end of every sequence there. -/
def successors (sequences : List (List ByteRange)) : List (List (List ByteRange)) :=
  ((branches sequences).map Prod.snd).filter (·.any (! ·.isEmpty))

/-- The memory for reading the sequences forwards, with equal places shared. -/
def forwardSize (sequences : List (List ByteRange)) : Nat :=
  let second := (successors sequences).eraseDups
  let third := (second.flatMap successors).eraseDups
  let fourth := (third.flatMap successors).eraseDups
  let places := (sequences :: second ++ third ++ fourth).eraseDups
  places.foldr (fun p n => 32 + 8 * (branches p).length + n) 32

def commonLead : List ByteRange → List ByteRange → Nat
  | a :: s, b :: t => if a = b then commonLead s t + 1 else 0
  | _, _ => 0

/-- The number of different non-empty beginnings, in a list in which equal ones are neighbours. -/
def leadCount : (previous : List ByteRange) → List (List ByteRange) → Nat
  | _, [] => 0
  | previous, s :: rest => s.length - commonLead previous s + leadCount s rest

/-- The memory for reading the sequences backwards, with equal beginnings shared. -/
def backwardSize (sequences : List (List ByteRange)) : Nat :=
  64 + 4 * sequences.length + 32 * leadCount [] sequences

end Utf8

/-! ## Expressions -/

inductive Direction
  | forwards
  | backwards
  deriving DecidableEq, Repr

def Direction.setSize (direction : Direction) (s : CharSet) : Nat :=
  match s.only? with
  | some code => 32 * (Utf8.encode code).length
  | none =>
    if s.isEmpty then 32
    else if s.isAscii then 64 + 8 * s.ranges.length
    else
      let sequences := s.ranges.flatMap Utf8.sequences
      match direction with
      | .forwards => Utf8.forwardSize sequences
      | .backwards => Utf8.backwardSize sequences

/--
The memory of an expression, from that of its sets; alternatives of alternatives are one choice.
-/
def Expr.sizeIn (direction : Direction) (setSize : CharSet → Nat) (inChoice : Bool) : Expr → Nat
  | .empty => 32
  | .chars set => setSize set
  | .look _ => 32
  | .seq left right => sizeIn direction setSize false left + sizeIn direction setSize false right
  | .alt preferred other =>
    (if inChoice then 4 else 72) + sizeIn direction setSize true preferred +
      sizeIn direction setSize false other
  | .rep inner min max _ =>
    let once := sizeIn direction setSize false inner
    match max with
    | none =>
      -- Repeating what can be empty takes a fork for the repetition and one for leaving it out.
      if min = 0 then once + (if inner.nullable then 112 else 40) else min * once + 40
    | some max =>
      if max = min then min * once
      else if min = 0 ∧ max = 1 then once + 72
      else (if min = 0 then 32 else min * once) + 32 + (max - min) * (once + 40)
  | .group inner =>
    sizeIn direction setSize false inner + (if direction = .forwards then 64 else 0)

def Expr.size (direction : Direction) (e : Expr) : Nat :=
  let sizes := e.sets.eraseDups.map fun s => (s, direction.setSize s)
  let setSize (s : CharSet) : Nat := ((sizes.find? (·.1 = s)).map Prod.snd).getD 0
  200 + e.sizeIn direction setSize false

def sizeLimit : Nat := 10 * 1024 * 1024

/-- Does the program of the expression keep within the limit in both directions? -/
def Expr.fits (e : Expr) : Bool :=
  e.size .forwards ≤ sizeLimit && e.size .backwards ≤ sizeLimit

end ShellGuard.Regex
