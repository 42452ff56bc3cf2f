import ShellGuard.Text.Basic

/-!
# Records — how often each symbol was altered

A record counts symbols: characters that a transform replaced, or longer texts.  The symbols stand
in increasing order, each once, so a record depends on how often each symbol occurred and on nothing
else.

## Main definitions

* `SymbolCounts` — counts by symbol, in order; `SymbolCounts.alter` changes one of them.
* `Record`, `Tally` — a finished record, and one under construction.
* `Record.ofSymbols?` — the record of a list of symbols; a list without symbols has none.
-/

namespace ShellGuard

/-- Is every symbol smaller than those behind it? -/
abbrev SymbolCounts.Increasing (entries : List (Text × Nat)) : Prop :=
  entries.Pairwise fun a b => Text.precedes a.1 b.1

/-- Counts by symbol, in increasing order of the symbols. -/
structure SymbolCounts where
  entries : List (Text × Nat)
  increasing : SymbolCounts.Increasing entries
  deriving DecidableEq, Repr

namespace SymbolCounts

def empty : SymbolCounts := ⟨[], List.Pairwise.nil⟩

/-- The entries with the count of one symbol changed; `f` is given the count there is. -/
def alterEntries (symbol : Text) (f : Option Nat → Nat) : List (Text × Nat) → List (Text × Nat)
  | [] => [(symbol, f none)]
  | (s, n) :: rest =>
    if Text.precedes symbol s then (symbol, f none) :: (s, n) :: rest
    else if symbol = s then (s, f (some n)) :: rest
    else (s, n) :: alterEntries symbol f rest

/-- A symbol of the changed entries is the one that was changed, or was there before. -/
theorem key_mem_alterEntries {symbol : Text} {f : Option Nat → Nat} {entries : List (Text × Nat)}
    {e : Text × Nat} (h : e ∈ alterEntries symbol f entries) :
    e.1 = symbol ∨ ∃ e' ∈ entries, e'.1 = e.1 := by
  induction entries with
  | nil => simp [alterEntries] at h; simp [h]
  | cons head rest ih =>
    obtain ⟨s, n⟩ := head
    unfold alterEntries at h
    split at h
    · rcases List.mem_cons.1 h with rfl | h
      · exact .inl rfl
      · exact .inr ⟨e, h, rfl⟩
    · split at h
      · rcases List.mem_cons.1 h with rfl | h
        · exact .inr ⟨(s, n), by simp, rfl⟩
        · exact .inr ⟨e, by simp [h], rfl⟩
      · rcases List.mem_cons.1 h with rfl | h
        · exact .inr ⟨(s, n), by simp, rfl⟩
        · rcases ih h with h | ⟨e', he', h⟩
          · exact .inl h
          · exact .inr ⟨e', by simp [he'], h⟩

theorem increasing_alterEntries {symbol : Text} {f : Option Nat → Nat}
    {entries : List (Text × Nat)} (h : Increasing entries) :
    Increasing (alterEntries symbol f entries) := by
  induction entries with
  | nil => simp [alterEntries, Increasing]
  | cons head rest ih =>
    obtain ⟨s, n⟩ := head
    obtain ⟨hs, hrest⟩ := List.pairwise_cons.1 h
    unfold alterEntries
    split
    · next hlt =>
      refine List.pairwise_cons.2 ⟨fun e he => ?_, h⟩
      rcases List.mem_cons.1 he with rfl | he
      · exact hlt
      · exact Text.precedes_trans hlt (hs e he)
    · next hnlt =>
      split
      · exact List.pairwise_cons.2 ⟨fun e he => hs e he, hrest⟩
      · next hne =>
        refine List.pairwise_cons.2 ⟨fun e he => ?_, ih hrest⟩
        rcases key_mem_alterEntries he with heq | ⟨e', he', heq⟩
        · simpa [heq] using Text.precedes_of_not_precedes hnlt hne
        · simpa [heq] using hs e' he'

def alter (symbol : Text) (f : Option Nat → Nat) (c : SymbolCounts) : SymbolCounts :=
  ⟨alterEntries symbol f c.entries, increasing_alterEntries c.increasing⟩

def bump (symbol : Text) (c : SymbolCounts) : SymbolCounts :=
  c.alter symbol fun n => n.getD 0 + 1

def set (symbol : Text) (count : Nat) (c : SymbolCounts) : SymbolCounts :=
  c.alter symbol fun _ => count

def count (c : SymbolCounts) (symbol : Text) : Nat :=
  ((c.entries.find? fun e => e.1 = symbol).map Prod.snd).getD 0

def distinct (c : SymbolCounts) : Nat :=
  c.entries.length

end SymbolCounts

/-- How often each symbol was altered, and how many alterations there were. -/
structure Record where
  counts : SymbolCounts
  total : Nat
  deriving DecidableEq, Repr

namespace Record

def distinct (r : Record) : Nat :=
  r.counts.distinct

end Record

structure Tally where
  counts : SymbolCounts
  total : Nat
  deriving DecidableEq, Repr

namespace Tally

def empty : Tally := ⟨.empty, 0⟩

def add (t : Tally) (symbol : Text) : Tally :=
  ⟨t.counts.bump symbol, t.total + 1⟩

def addChar (t : Tally) (c : Char) : Tally :=
  t.add [c]

def addAll (t : Tally) (symbols : List Text) : Tally :=
  symbols.foldl add t

def isEmpty (t : Tally) : Bool :=
  t.total = 0

/-- The record of the symbols added; there is none without symbols. -/
def finish? (t : Tally) : Option Record :=
  if t.isEmpty then none else some ⟨t.counts, t.total⟩

end Tally

def Record.ofSymbols? (symbols : List Text) : Option Record :=
  (Tally.empty.addAll symbols).finish?

end ShellGuard
