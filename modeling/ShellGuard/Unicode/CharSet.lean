import ShellGuard.Text.Basic

/-!
# Character sets — finite unions of code point ranges

A set is kept as a list of ranges in increasing order that neither overlap nor touch.  The
operations of a bracketed character class (union, intersection, difference, symmetric difference,
complement) are sweeps over such lists.

## Main definitions

* `CodeRange`, `CharSet` — a range of code points and a set of them.
* `CharSet.contains` — membership.
* `CharSet.ofHex` — reads the written form of a table: ranges in hexadecimal, set apart by blanks.
-/

namespace ShellGuard

/-- The code points from `lo` to `hi`, both included. -/
structure CodeRange where
  lo : Nat
  hi : Nat
  deriving DecidableEq, Repr, Inhabited

/-- A set of code points, as its ranges in increasing order with gaps between them. -/
structure CharSet where
  ranges : List CodeRange
  deriving DecidableEq, Repr, Inhabited

namespace CharSet

def lastCode : Nat := 0x10FFFF

def empty : CharSet := ⟨[]⟩

def all : CharSet := ⟨[⟨0, lastCode⟩]⟩

def range (lo hi : Nat) : CharSet := ⟨[⟨lo, hi⟩]⟩

def single (c : Char) : CharSet := range c.toNat c.toNat

/-! ## Membership -/

/-- Is `code` in one of the ranges?  The ranges increase, so the search may stop early. -/
def containsIn (code : Nat) : List CodeRange → Bool
  | [] => false
  | r :: rest => if code < r.lo then false else code ≤ r.hi || containsIn code rest

def containsCode (s : CharSet) (code : Nat) : Bool :=
  containsIn code s.ranges

def contains (s : CharSet) (c : Char) : Bool :=
  s.containsCode c.toNat

def isEmpty (s : CharSet) : Bool :=
  s.ranges.isEmpty

def size (s : CharSet) : Nat :=
  s.ranges.foldr (fun r n => r.hi + 1 - r.lo + n) 0

/-- The only member of a set of one code point. -/
def only? (s : CharSet) : Option Nat :=
  match s.ranges with
  | [r] => if r.lo = r.hi then some r.lo else none
  | _ => none

def isAscii (s : CharSet) : Bool :=
  s.ranges.all fun r => r.hi < 0x80

/-! ## Operations -/

/-- Joins ranges that overlap or touch `r`, in a list ordered by first code point. -/
def absorb (r : CodeRange) : List CodeRange → List CodeRange
  | [] => [r]
  | next :: rest =>
    if next.lo ≤ r.hi + 1 then absorb ⟨r.lo, max r.hi next.hi⟩ rest else r :: absorb next rest

/-- Joins ranges that overlap or touch, in a list ordered by first code point. -/
def coalesce : List CodeRange → List CodeRange
  | [] => []
  | r :: rest => absorb r rest

def ofRanges (rs : List CodeRange) : CharSet :=
  ⟨coalesce (rs.mergeSort fun a b => a.lo ≤ b.lo)⟩

def union (s t : CharSet) : CharSet :=
  ofRanges (s.ranges ++ t.ranges)

def unions (sets : List CharSet) : CharSet :=
  ofRanges (sets.flatMap ranges)

/-- The gaps between the ranges, starting at `start`. -/
def gaps : (start : Nat) → List CodeRange → List CodeRange
  | start, [] => if start ≤ lastCode then [⟨start, lastCode⟩] else []
  | start, r :: rest =>
    if start < r.lo then ⟨start, r.lo - 1⟩ :: gaps (r.hi + 1) rest else gaps (r.hi + 1) rest

def complement (s : CharSet) : CharSet :=
  ⟨gaps 0 s.ranges⟩

def inter (s t : CharSet) : CharSet :=
  (s.complement.union t.complement).complement

def diff (s t : CharSet) : CharSet :=
  (s.complement.union t).complement

def symmDiff (s t : CharSet) : CharSet :=
  (s.union t).diff (s.inter t)

/-! ## Tables in hexadecimal -/

def hexDigit? (c : Char) : Option Nat :=
  if '0' ≤ c ∧ c ≤ '9' then some (c.toNat - '0'.toNat)
  else if 'a' ≤ c ∧ c ≤ 'f' then some (c.toNat - 'a'.toNat + 10)
  else if 'A' ≤ c ∧ c ≤ 'F' then some (c.toNat - 'A'.toNat + 10)
  else none

/-- The number that a run of hexadecimal digits stands for; other characters are passed over. -/
def hexValue (digits : Text) : Nat :=
  digits.foldl (fun n c => match hexDigit? c with | some d => n * 16 + d | none => n) 0

/-- The range written as `lo-hi`, or as one number. -/
def rangeOfHex (written : Text) : CodeRange :=
  let lo := written.takeWhile (· ≠ '-')
  match written.drop lo.length with
  | [] => ⟨hexValue lo, hexValue lo⟩
  | _ :: hi => ⟨hexValue lo, hexValue hi⟩

/-- The words of a table, set apart by spaces and line ends. -/
def words (table : String) : List Text :=
  ((table.splitToList fun c => c = ' ' || c = '\n').filter (· ≠ "")).map String.toList

/-- The set written as ranges in hexadecimal, in any order, set apart by spaces and line ends. -/
def ofHex (table : String) : CharSet :=
  ofRanges ((words table).map rangeOfHex)

end CharSet

end ShellGuard
