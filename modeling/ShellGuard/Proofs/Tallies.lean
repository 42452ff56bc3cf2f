import ShellGuard.Proofs.Counting
import ShellGuard.Proofs.Text.Octets
import ShellGuard.Report

/-!
# Tallies — a record is the multiset of the symbols that were added

A tally is fed call by call, with a symbol or with a single character.  Counts of symbols in order
are determined by how often each symbol occurs, so of the calls a record keeps how often each
symbol was added, and nothing of their order; its text and the command that publishes it depend on
no more than that.

## Main definitions

* `Tally.Call` — what a tally is given; `Tally.ofCalls` is the tally after some calls.

## Main statements

* `SymbolCounts.mem_entries_iff` — the entries are the symbols with their counts.
* `SymbolCounts.eq_of_count_eq` — counts that agree for each symbol are the same.
* `Tally.addAll_perm` — a tally does not depend on the order of the symbols.
* `Tally.finish?_ofCalls` — what is recorded of any calls.
-/

namespace ShellGuard

/-! ## Counts by symbol -/

namespace SymbolCounts

def Positive (c : SymbolCounts) : Prop :=
  ∀ entry ∈ c.entries, 0 < entry.2

/-- In increasing entries a symbol stands with its count. -/
theorem countEntries_of_mem {entries : List (Text × Nat)} (h : Increasing entries)
    {entry : Text × Nat} (hmem : entry ∈ entries) : countEntries entries entry.1 = entry.2 := by
  induction entries with
  | nil => cases hmem
  | cons first entries ih =>
    obtain ⟨hfirst, hrest⟩ := List.pairwise_cons.1 h
    rw [countEntries_cons]
    rcases List.mem_cons.1 hmem with rfl | hmem
    · rw [if_pos rfl]
    · have hne : first.1 ≠ entry.1 := by
        intro heq
        have hbefore := hfirst entry hmem
        rw [heq] at hbefore
        exact Text.not_precedes_self entry.1 hbefore
      rw [if_neg hne, ih hrest hmem]

theorem mem_of_countEntries_pos {entries : List (Text × Nat)} {symbol : Text}
    (h : 0 < countEntries entries symbol) :
    (symbol, countEntries entries symbol) ∈ entries := by
  induction entries with
  | nil => cases h
  | cons first entries ih =>
    rw [countEntries_cons] at h ⊢
    split
    · next heq => rw [← heq]; exact List.mem_cons_self
    · next hne =>
      rw [if_neg hne] at h
      exact List.mem_cons_of_mem first (ih h)

/-- The entries are the symbols that occur, each with its count. -/
theorem mem_entries_iff {c : SymbolCounts} (hpositive : c.Positive) {symbol : Text} {n : Nat} :
    (symbol, n) ∈ c.entries ↔ 0 < n ∧ c.count symbol = n := by
  constructor
  · intro hmem
    exact ⟨hpositive _ hmem, countEntries_of_mem c.increasing hmem⟩
  · rintro ⟨hpos, rfl⟩
    exact mem_of_countEntries_pos hpos

theorem nodup_entries (c : SymbolCounts) : c.entries.Nodup := by
  refine c.increasing.imp ?_
  rintro a _ hbefore rfl
  exact Text.not_precedes_self a.1 hbefore

/-- Counts that agree for each symbol are the same: the order of the entries is fixed. -/
theorem eq_of_count_eq {c d : SymbolCounts} (hc : c.Positive) (hd : d.Positive)
    (h : ∀ symbol, c.count symbol = d.count symbol) : c = d := by
  have hmem : ∀ entry, entry ∈ c.entries ↔ entry ∈ d.entries := by
    intro entry
    rw [mem_entries_iff hc, mem_entries_iff hd, h]
  have hperm := (List.perm_ext_iff_of_nodup c.nodup_entries d.nodup_entries).2 hmem
  have hentries : c.entries = d.entries := by
    refine hperm.eq_of_pairwise ?_ c.increasing d.increasing
    intro a b _ _ hab hba
    exact absurd (Text.precedes_trans hab hba) (Text.not_precedes_self a.1)
  cases c
  cases d
  cases hentries
  rfl

end SymbolCounts

/-! ## Symbols in another order -/

namespace Tally

variable {symbols symbols' : List Text}

theorem positive_addAll (symbols : List Text) : (empty.addAll symbols).counts.Positive :=
  forall_mem_addAll (fun _ _ n => Nat.succ_pos n) (List.forall_mem_nil _)

/-- The tally does not depend on the order of the symbols. -/
theorem addAll_perm (h : symbols.Perm symbols') : empty.addAll symbols = empty.addAll symbols' := by
  have hcounts : (empty.addAll symbols).counts = (empty.addAll symbols').counts := by
    apply SymbolCounts.eq_of_count_eq (positive_addAll symbols) (positive_addAll symbols')
    intro symbol
    rw [count_addAll, count_addAll, h.count_eq]
  have htotal : (empty.addAll symbols).total = (empty.addAll symbols').total := by
    rw [total_addAll, total_addAll, h.length_eq]
  cases hleft : empty.addAll symbols
  cases hright : empty.addAll symbols'
  rw [hleft, hright] at hcounts htotal
  cases hcounts
  cases htotal
  rfl

end Tally

theorem Record.positive_of_ofSymbols? {symbols : List Text} {r : Record}
    (h : ofSymbols? symbols = some r) : r.counts.Positive := by
  rw [eq_of_ofSymbols? h]
  exact Tally.positive_addAll symbols

/-! ## Calls -/

namespace Tally

/-- What a tally is given: a whole symbol, or a single character. -/
inductive Call
  | add (symbol : Text)
  | addChar (c : Char)
  deriving DecidableEq, Repr

namespace Call

def run (t : Tally) : Call → Tally
  | add symbol => t.add symbol
  | addChar c => t.addChar c

def symbol : Call → Text
  | add symbol => symbol
  | addChar c => [c]

end Call

/-- The tally after some calls, the first one on an empty tally. -/
def ofCalls (calls : List Call) : Tally :=
  calls.foldl Call.run empty

theorem ofCalls_eq (calls : List Call) : ofCalls calls = empty.addAll (calls.map Call.symbol) := by
  have hstep : ∀ t, calls.foldl Call.run t = t.addAll (calls.map Call.symbol) := by
    induction calls with
    | nil => exact fun t => rfl
    | cons call calls ih =>
      intro t
      cases call with
      | add symbol => exact ih (t.add symbol)
      | addChar c => exact ih (t.add [c])
  exact hstep empty

theorem finish?_ofCalls_eq (calls : List Call) :
    (ofCalls calls).finish? = Record.ofSymbols? (calls.map Call.symbol) := by
  rw [ofCalls_eq]
  rfl

theorem finish?_eq_none_iff (t : Tally) : t.finish? = none ↔ t.isEmpty := by
  unfold finish?
  cases t.isEmpty <;> simp

theorem finish?_ofCalls_eq_none_iff (calls : List Call) :
    (ofCalls calls).finish? = none ↔ calls = [] := by
  rw [finish?_ofCalls_eq, Record.ofSymbols?_eq_none_iff, List.map_eq_nil_iff]

/--
Whatever calls are made, there is no record exactly if there was none; else the entries of the
record are the symbols with their multiplicities, in the order of their octets, and the total is
the number of calls and the sum of the counts.  Calls in another order leave the same record, with
the same text, which is published by the same command.
-/
theorem finish?_ofCalls (calls : List Call) :
    ((ofCalls calls).isEmpty ↔ calls = []) ∧
      ((ofCalls calls).finish? = none ↔ calls = []) ∧
      (∀ r, (ofCalls calls).finish? = some r →
        (∀ symbol n, (symbol, n) ∈ r.counts.entries ↔
          0 < n ∧ n = (calls.map Call.symbol).count symbol) ∧
        (r.counts.entries.Pairwise fun a b => a.1.octets < b.1.octets) ∧
        r.total = calls.length ∧ r.counts.sum = calls.length) ∧
      ∀ calls', calls.Perm calls' →
        (ofCalls calls').finish? = (ofCalls calls).finish? ∧
        (ofCalls calls').finish?.map Jsonable.encode =
          (ofCalls calls).finish?.map Jsonable.encode ∧
        ∀ area feature, (ofCalls calls').finish?.map (Record.command · area feature) =
          (ofCalls calls).finish?.map (Record.command · area feature) := by
  refine ⟨?_, finish?_ofCalls_eq_none_iff calls, ?_, ?_⟩
  · rw [← finish?_eq_none_iff, finish?_ofCalls_eq_none_iff]
  · intro r hr
    rw [finish?_ofCalls_eq] at hr
    have htotal : r.total = calls.length := by
      rw [Record.total_of_ofSymbols? hr, List.length_map]
    refine ⟨?_, ?_, htotal, (Record.sum_of_ofSymbols? hr).trans htotal⟩
    · intro symbol n
      rw [SymbolCounts.mem_entries_iff (Record.positive_of_ofSymbols? hr),
        Record.count_of_ofSymbols? hr, eq_comm (a := n)]
    · exact r.counts.increasing.imp fun hab => Text.precedes_iff_octets_lt.1 hab
  · intro calls' hperm
    -- adding does not depend on the order of the symbols
    have hfinish : (ofCalls calls').finish? = (ofCalls calls).finish? := by
      rw [ofCalls_eq, ofCalls_eq, addAll_perm (hperm.map Call.symbol)]
    exact ⟨hfinish, by rw [hfinish], fun area feature => by rw [hfinish]⟩

/-- A symbol is added as a text and as a character, and stands behind one of a smaller code. -/
theorem finish?_ofCalls_shuffled :
    [Call.addChar '😀', .add ['\uffff'], .add ['😀']].Perm
        [.add ['\uffff'], .addChar '😀', .add ['😀']] ∧
      ∃ r, (ofCalls [.addChar '😀', .add ['\uffff'], .add ['😀']]).finish? = some r ∧
        (['😀'], 2) ∈ r.counts.entries ∧ r.total = 3 ∧
        (ofCalls [.add ['\uffff'], .addChar '😀', .add ['😀']]).finish? = some r := by
  have hperm : [Call.addChar '😀', .add ['\uffff'], .add ['😀']].Perm
      [.add ['\uffff'], .addChar '😀', .add ['😀']] := by decide
  obtain ⟨-, hnone, hrecord, horder⟩ :=
    finish?_ofCalls [.addChar '😀', .add ['\uffff'], .add ['😀']]
  obtain ⟨r, hr⟩ := Option.ne_none_iff_exists'.1 fun h => List.cons_ne_nil _ _ (hnone.1 h)
  obtain ⟨hentries, -, htotal, -⟩ := hrecord r hr
  exact ⟨hperm, r, hr, (hentries _ _).2 (by decide), htotal, (horder _ hperm).1.trans hr⟩

end Tally
end ShellGuard
