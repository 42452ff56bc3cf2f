import ShellGuard.Edit

/-!
# Counting — what a record says about the symbols that were counted

One more symbol raises one count by one.  Whatever symbols are taken to weigh, the counts therefore
weigh as much as the symbols that were counted; with one for every symbol, they add up to the total,
which is the number of symbols.  Symbols are stretches of the input, so there are no more of them
than characters.

## Main definitions

* `SymbolCounts.sum` — the sum of all counts.
* `SymbolCounts.weigh` — the sum of all counts, each times what its symbol weighs.
* `SymbolCounts.weighSymbols` — what a list of symbols weighs.
* `Outcome.countOf` — how often a text gave way.

## Main statements

* `SymbolCounts.alterEntries_of_forall_precedes` — where a new symbol goes that is behind all
  others.
* `SymbolCounts.weigh_bump`, `SymbolCounts.sum_bump` — what one more symbol adds.
* `SymbolCounts.count_bump` — one more symbol raises its own count, and no other.
* `Tally.weigh_addAll` — the counts of some symbols weigh as much as the symbols.
* `Tally.count_addAll` — the count of a symbol is how often it was added.
* `Tally.forall_mem_addAll` — what holds of every entry of the counts.
* `Record.ofSymbols?_eq_none_iff` — only the empty list of symbols has no record.
* `Record.total_of_ofSymbols?`, `Record.sum_of_ofSymbols?` — the total is the number of symbols, and
  the sum of the counts.
* `Edit.Divide.length_symbols_le` — no more symbols give way than there are characters.
-/

namespace ShellGuard

/-! ## Counts -/

namespace SymbolCounts

def sumEntries : List (Text × Nat) → Nat
  | [] => 0
  | (_, n) :: entries => n + sumEntries entries

def sum (c : SymbolCounts) : Nat :=
  sumEntries c.entries

/-- The sum of the counts of some entries, each times what its symbol weighs. -/
def weighEntries (weight : Text → Int) : List (Text × Nat) → Int
  | [] => 0
  | (symbol, n) :: entries => n * weight symbol + weighEntries weight entries

def weigh (weight : Text → Int) (c : SymbolCounts) : Int :=
  weighEntries weight c.entries

def weighSymbols (weight : Text → Int) : List Text → Int
  | [] => 0
  | symbol :: symbols => weight symbol + weighSymbols weight symbols

@[simp] theorem weighEntries_nil (weight : Text → Int) : weighEntries weight [] = 0 := rfl

@[simp] theorem weighEntries_cons (weight : Text → Int) (entry : Text × Nat)
    (entries : List (Text × Nat)) :
    weighEntries weight (entry :: entries) =
      entry.2 * weight entry.1 + weighEntries weight entries := rfl

/-- One more symbol adds what it weighs, wherever it goes. -/
theorem weighEntries_alterEntries (weight : Text → Int) (symbol : Text)
    (entries : List (Text × Nat)) :
    weighEntries weight (alterEntries symbol (fun n => n.getD 0 + 1) entries) =
      weighEntries weight entries + weight symbol := by
  induction entries with
  | nil => simp [alterEntries]
  | cons entry entries ih =>
    obtain ⟨s, n⟩ := entry
    unfold alterEntries
    split
    · -- the symbol is new, and stands in front of the others
      simp [Int.add_comm]
    · split
      · next heq =>
        subst heq
        simp only [weighEntries_cons, Option.getD_some, Int.natCast_add, Int.add_mul]
        omega
      · simp only [weighEntries_cons, ih]
        omega

theorem weigh_bump (weight : Text → Int) (symbol : Text) (c : SymbolCounts) :
    (c.bump symbol).weigh weight = c.weigh weight + weight symbol :=
  weighEntries_alterEntries weight symbol c.entries

/-- If every symbol weighs one, the counts weigh their sum. -/
theorem weighEntries_one (entries : List (Text × Nat)) :
    weighEntries (fun _ => 1) entries = sumEntries entries := by
  induction entries with
  | nil => rfl
  | cons entry entries ih => simp [sumEntries, ih]

/-- A symbol that all others precede goes behind them. -/
theorem alterEntries_of_forall_precedes {symbol : Text} {entries : List (Text × Nat)}
    (f : Option Nat → Nat) (h : ∀ entry ∈ entries, Text.precedes entry.1 symbol) :
    alterEntries symbol f entries = entries ++ [(symbol, f none)] := by
  induction entries with
  | nil => rfl
  | cons entry entries ih =>
    obtain ⟨s, n⟩ := entry
    obtain ⟨hs, hrest⟩ := List.forall_mem_cons.1 h
    -- the symbol belongs neither in front of the first entry nor to it
    have hback : ¬ Text.precedes symbol s := fun hback =>
      Text.not_precedes_self s (Text.precedes_trans hs hback)
    have hne : symbol ≠ s := by
      rintro rfl
      exact hback hs
    rw [alterEntries, if_neg hback, if_neg hne, ih hrest, List.cons_append]

theorem sum_bump (symbol : Text) (c : SymbolCounts) : (c.bump symbol).sum = c.sum + 1 := by
  have hone := weigh_bump (fun _ => 1) symbol c
  simp only [weigh, weighEntries_one] at hone
  unfold sum
  omega

/-- What holds of the changed entry and of those before holds of all entries. -/
theorem forall_mem_alterEntries {symbol : Text} {f : Option Nat → Nat}
    {motive : Text × Nat → Prop} (hnew : ∀ n, motive (symbol, f n)) {entries : List (Text × Nat)}
    (h : ∀ entry ∈ entries, motive entry) :
    ∀ entry ∈ alterEntries symbol f entries, motive entry := by
  induction entries with
  | nil => simpa [alterEntries] using hnew none
  | cons entry entries ih =>
    obtain ⟨s, n⟩ := entry
    rcases List.forall_mem_cons.1 h with ⟨hentry, hrest⟩
    unfold alterEntries
    split
    · exact List.forall_mem_cons.2 ⟨hnew none, h⟩
    · split
      · next heq => exact List.forall_mem_cons.2 ⟨heq ▸ hnew (some n), hrest⟩
      · exact List.forall_mem_cons.2 ⟨hentry, ih hrest⟩

theorem le_sumEntries {entry : Text × Nat} {entries : List (Text × Nat)} (h : entry ∈ entries) :
    entry.2 ≤ sumEntries entries := by
  induction entries with
  | nil => cases h
  | cons first entries ih =>
    rcases List.mem_cons.1 h with rfl | h
    · exact Nat.le_add_right _ _
    · exact Nat.le_trans (ih h) (Nat.le_add_left _ _)

theorem count_le_sum {c : SymbolCounts} {entry : Text × Nat} (h : entry ∈ c.entries) :
    entry.2 ≤ c.sum :=
  le_sumEntries h

/-! ### The count of one symbol -/

def countEntries (entries : List (Text × Nat)) (t : Text) : Nat :=
  ((entries.find? fun entry => entry.1 = t).map Prod.snd).getD 0

theorem countEntries_cons (entry : Text × Nat) (entries : List (Text × Nat)) (t : Text) :
    countEntries (entry :: entries) t =
      if entry.1 = t then entry.2 else countEntries entries t := by
  by_cases h : entry.1 = t <;> simp [countEntries, h]

theorem countEntries_eq_zero {entries : List (Text × Nat)} {t : Text}
    (h : ∀ entry ∈ entries, entry.1 ≠ t) : countEntries entries t = 0 := by
  have hnone : entries.find? (fun entry => entry.1 = t) = none := by
    simpa using h
  simp [countEntries, hnone]

/-- One more symbol raises its own count, and no other. -/
theorem countEntries_alterEntries (symbol : Text) {entries : List (Text × Nat)}
    (h : Increasing entries) (t : Text) :
    countEntries (alterEntries symbol (fun n => n.getD 0 + 1) entries) t =
      countEntries entries t + if symbol = t then 1 else 0 := by
  induction entries with
  | nil => simp [alterEntries, countEntries_cons, countEntries_eq_zero]
  | cons entry entries ih =>
    obtain ⟨s, n⟩ := entry
    obtain ⟨hs, hrest⟩ := List.pairwise_cons.1 h
    unfold alterEntries
    split
    · next hlt =>
      -- the symbol is smaller than all others, so it had no count before
      have hnew : ∀ entry ∈ (s, n) :: entries, entry.1 ≠ symbol := by
        intro entry hentry heq
        have hback : Text.precedes symbol entry.1 := by
          rcases List.mem_cons.1 hentry with rfl | hentry
          · exact hlt
          · exact Text.precedes_trans hlt (hs entry hentry)
        exact Text.not_precedes_self symbol (heq ▸ hback)
      rw [countEntries_cons]
      by_cases ht : symbol = t
      · subst ht
        simp [countEntries_eq_zero hnew]
      · simp [ht]
    · split
      · next heq =>
        subst heq
        by_cases ht : symbol = t <;> simp [countEntries_cons, ht]
      · next hne =>
        rw [countEntries_cons, countEntries_cons, ih hrest]
        by_cases ht : s = t
        · simp [ht, ht ▸ hne]
        · simp [ht]

theorem count_bump (symbol : Text) (c : SymbolCounts) (t : Text) :
    (c.bump symbol).count t = c.count t + if symbol = t then 1 else 0 :=
  countEntries_alterEntries symbol c.increasing t

end SymbolCounts

/-! ## Tallies and records -/

namespace Tally

theorem total_addAll (t : Tally) (symbols : List Text) :
    (t.addAll symbols).total = t.total + symbols.length := by
  induction symbols generalizing t with
  | nil => rfl
  | cons symbol symbols ih =>
    calc
      (t.addAll (symbol :: symbols)).total = (t.total + 1) + symbols.length := ih (t.add symbol)
      _ = t.total + (symbol :: symbols).length := by
        rw [List.length_cons]
        omega

theorem sum_addAll (t : Tally) (symbols : List Text) :
    (t.addAll symbols).counts.sum = t.counts.sum + symbols.length := by
  induction symbols generalizing t with
  | nil => rfl
  | cons symbol symbols ih =>
    calc
      (t.addAll (symbol :: symbols)).counts.sum = (t.add symbol).counts.sum + symbols.length :=
        ih (t.add symbol)
      _ = t.counts.sum + (symbol :: symbols).length := by
        have hone : (t.add symbol).counts.sum = t.counts.sum + 1 :=
          SymbolCounts.sum_bump symbol t.counts
        rw [hone, List.length_cons]
        omega

/-- The counts of some symbols weigh as much as the symbols. -/
theorem weigh_addAll (weight : Text → Int) (t : Tally) (symbols : List Text) :
    (t.addAll symbols).counts.weigh weight =
      t.counts.weigh weight + SymbolCounts.weighSymbols weight symbols := by
  induction symbols generalizing t with
  | nil => exact (Int.add_zero _).symm
  | cons symbol symbols ih =>
    calc
      (t.addAll (symbol :: symbols)).counts.weigh weight
          = (t.add symbol).counts.weigh weight + SymbolCounts.weighSymbols weight symbols :=
            ih (t.add symbol)
      _ = (t.counts.weigh weight + weight symbol) + SymbolCounts.weighSymbols weight symbols := by
            rw [add, SymbolCounts.weigh_bump]
      _ = t.counts.weigh weight + SymbolCounts.weighSymbols weight (symbol :: symbols) :=
            Int.add_assoc _ _ _

/-- The count of a symbol is how often it was added. -/
theorem count_addAll (t : Tally) (symbols : List Text) (symbol : Text) :
    (t.addAll symbols).counts.count symbol = t.counts.count symbol + symbols.count symbol := by
  induction symbols generalizing t with
  | nil => rfl
  | cons first symbols ih =>
    calc
      (t.addAll (first :: symbols)).counts.count symbol
          = (t.add first).counts.count symbol + symbols.count symbol := ih (t.add first)
      _ = t.counts.count symbol + (first :: symbols).count symbol := by
        rw [add, SymbolCounts.count_bump, List.count_cons]
        simp only [beq_iff_eq]
        omega

/-- What holds of the entries there are and of all that can be made of a symbol holds of all. -/
theorem forall_mem_addAll {motive : Text × Nat → Prop} {symbols : List Text}
    (hsymbols : ∀ symbol ∈ symbols, ∀ n, motive (symbol, n + 1)) {t : Tally}
    (h : ∀ entry ∈ t.counts.entries, motive entry) :
    ∀ entry ∈ (t.addAll symbols).counts.entries, motive entry := by
  induction symbols generalizing t with
  | nil => exact h
  | cons symbol symbols ih =>
    rcases List.forall_mem_cons.1 hsymbols with ⟨hsymbol, hrest⟩
    exact ih hrest (SymbolCounts.forall_mem_alterEntries (fun n => hsymbol (n.getD 0)) h)

end Tally

namespace Record

variable {symbols : List Text} {r : Record}

/-- Only the empty list of symbols has no record. -/
theorem ofSymbols?_eq_none_iff : ofSymbols? symbols = none ↔ symbols = [] := by
  have htotal : (Tally.empty.addAll symbols).total = symbols.length := by
    simpa [Tally.empty] using Tally.total_addAll Tally.empty symbols
  simp [ofSymbols?, Tally.finish?, Tally.isEmpty, htotal]

theorem eq_of_ofSymbols? (h : ofSymbols? symbols = some r) :
    r = ⟨(Tally.empty.addAll symbols).counts, (Tally.empty.addAll symbols).total⟩ := by
  unfold ofSymbols? Tally.finish? at h
  split at h
  · cases h
  · cases h
    rfl

theorem total_of_ofSymbols? (h : ofSymbols? symbols = some r) : r.total = symbols.length := by
  rw [eq_of_ofSymbols? h, Tally.total_addAll]
  exact Nat.zero_add _

theorem sum_of_ofSymbols? (h : ofSymbols? symbols = some r) : r.counts.sum = r.total := by
  rw [total_of_ofSymbols? h, eq_of_ofSymbols? h, Tally.sum_addAll]
  exact Nat.zero_add _

theorem count_of_ofSymbols? (h : ofSymbols? symbols = some r) (symbol : Text) :
    r.counts.count symbol = symbols.count symbol := by
  rw [eq_of_ofSymbols? h, Tally.count_addAll]
  exact Nat.zero_add _

end Record

/-! ## Edits -/

namespace Edit

variable {edits : List Edit}

theorem symbols_intercalate (sep : Text) (parts : List (List Edit)) :
    symbols (List.intercalate [keep sep] parts) = (parts.map symbols).flatten := by
  match parts with
  | [] => rfl
  | [part] => simp
  | part :: next :: rest =>
    rw [List.intercalate_cons_cons, symbols_append, symbols_append,
      symbols_intercalate sep (next :: rest)]
    simp

theorem target_intercalate (sep : Text) (parts : List (List Edit)) :
    target (List.intercalate [keep sep] parts) = Text.joinWith sep (parts.map target) := by
  match parts with
  | [] => rfl
  | [part] => simp
  | part :: next :: rest =>
    rw [List.intercalate_cons_cons, target_append, target_append,
      target_intercalate sep (next :: rest)]
    simp

/-- No more symbols give way than there are characters. -/
theorem Divide.length_symbols_le {t : Text} (h : Divide edits t) :
    (symbols edits).length ≤ t.length := by
  obtain ⟨rfl, hproper⟩ := h
  induction edits with
  | nil => exact Nat.le_refl 0
  | cons edit edits ih =>
    obtain ⟨hedit, hrest⟩ := List.forall_mem_cons.1 hproper
    have hlength := ih hrest
    cases edit with
    | keep text =>
      rw [source_cons, List.length_append, symbols_keep_cons]
      omega
    | replace symbol text =>
      have hpos : 0 < symbol.length := List.length_pos_iff.2 hedit
      rw [source_cons, List.length_append, symbols_replace_cons, List.length_cons, before_replace]
      omega

end Edit

/-! ## Outcomes -/

namespace Outcome

/-- How often a text gave way, as the record says; without a record none did. -/
def countOf (o : Outcome) (t : Text) : Nat :=
  (o.record?.map fun r => r.counts.count t).getD 0

theorem countOf_ofEdits (edits : List Edit) (t : Text) :
    (ofEdits edits).countOf t = (Edit.symbols edits).count t := by
  unfold countOf ofEdits
  cases h : Record.ofSymbols? (Edit.symbols edits) with
  | none => simp [Record.ofSymbols?_eq_none_iff.1 h]
  | some r => simp [Record.count_of_ofSymbols? h]

end Outcome

end ShellGuard
