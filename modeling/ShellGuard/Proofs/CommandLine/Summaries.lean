import ShellGuard.CommandLine.Summary
import ShellGuard.Proofs.Text.VisibleForms

/-!
# Summaries — no symbol can forge a line of a summary

A symbol is shown in visible form between quotes, so whatever it holds, its line holds no line break
and no other control, and is read back as the symbol and its count.  A summary is the lines of its
header and of its symbols, in their order, and says the whole record.

## Main definitions

* `readSummaryTotal?`, `readSummaryLine?` — read the header of a summary and the line of a symbol.

## Main statements

* `splitOn_flatMap_lines`, `filter_isControl_flatMap_lines` — text of lines is parted into them.
* `readSummaryLine?_summaryRow` — the line of a symbol is read back.
* `summaryText_lines` — what a summary without colours shows.
-/

namespace ShellGuard

open Visible

/-! ## Lines -/

theorem showsNoControl_concat {parts : List Text} (h : ∀ part ∈ parts, ShowsNoControl part) :
    ShowsNoControl (.concat parts) := by
  intro c hc
  obtain ⟨part, hpart, hc⟩ := List.mem_flatten.1 hc
  exact h part hpart c hc

theorem showsNoControl_ofNat (n : Nat) : ShowsNoControl (.ofNat n) := by
  intro c hc hcontrol
  have hdigit := Char.isDigit_iff_toNat.1 (Json.isDigit_of_mem_ofNat hc)
  have hzero : '0'.toNat = 0x30 := rfl
  have hnine : '9'.toNat = 0x39 := rfl
  rcases hcontrol with hlt | ⟨hle, -⟩ <;> omega

variable {lines : List Text}

/-- Lines without controls, each with a line feed behind it, are parted at the line feeds. -/
theorem splitOn_flatMap_lines (h : ∀ line ∈ lines, ShowsNoControl line) :
    (lines.flatMap (· ++ ['\n'])).splitOn '\n' = lines ++ [[]] := by
  induction lines with
  | nil => rfl
  | cons line lines ih =>
    obtain ⟨hline, hlines⟩ := List.forall_mem_cons.1 h
    have hbreak : '\n' ∉ line := fun hmem => hline '\n' hmem (by decide)
    have hfirst : (line ++ '\n' :: lines.flatMap (· ++ ['\n'])).splitOn '\n' =
        line.splitOn '\n' ++ (lines.flatMap (· ++ ['\n'])).splitOn '\n' :=
      List.splitOnP_append_cons line _ (beq_self_eq_true '\n')
    rw [List.flatMap_cons, List.append_assoc, List.singleton_append, hfirst,
      List.splitOn_eq_singleton hbreak, ih hlines]
    rfl

/-- The only controls of lines without controls are the line feeds behind them. -/
theorem filter_isControl_flatMap_lines (h : ∀ line ∈ lines, ShowsNoControl line) :
    (lines.flatMap (· ++ ['\n'])).filter (IsControl ·) =
      List.replicate lines.length '\n' := by
  induction lines with
  | nil => rfl
  | cons line lines ih =>
    obtain ⟨hline, hlines⟩ := List.forall_mem_cons.1 h
    have hnone : line.filter (IsControl ·) = [] :=
      List.filter_eq_nil_iff.2 (by simpa [ShowsNoControl] using hline)
    have hfeed : ['\n'].filter (IsControl ·) = ['\n'] := rfl
    rw [List.flatMap_cons, List.filter_append, List.filter_append, hnone, hfeed, ih hlines]
    rfl

/-! ## Reading -/

def readSummaryLine? (line : Text) : Option (Text × Nat) := do
  let t ← Text.dropLead? [' ', ' ', '\''] line
  let (symbol, t) ← readQuoted? t
  let digits ← Text.dropLead? ['x'] (t.dropWhile fun c => c = ' ')
  some (symbol, Json.decimal digits)

/-- What the header of a summary says in front of the total. -/
def summaryLead (kind : TransformKind) : Text :=
  .concat ["Symbols altered by '", kind.name, "' ("]

def readSummaryTotal? (kind : TransformKind) (header : Text) : Option Nat := do
  let t ← Text.dropLead? (summaryLead kind) header
  some (Json.decimal (t.takeWhile Char.isDigit))

/-- The line of a symbol, without colours and without its line feed. -/
def summaryRow (symbol : Text) (count : Nat) : Text :=
  .concat ["  ", shownSymbol symbol, " x", .ofNat count]

theorem summaryLine_false (symbol : Text) (count : Nat) :
    summaryLine false symbol count = summaryRow symbol count ++ ['\n'] := by
  simp [summaryLine, summaryRow, Text.concat]

/-- The line of a symbol is read back, whatever the symbol holds and however wide it is. -/
theorem readSummaryLine?_summaryRow (symbol : Text) (count : Nat) :
    readSummaryLine? (summaryRow symbol count) = some (symbol, count) := by
  obtain ⟨width, hshown⟩ : ∃ width, shownSymbol symbol =
      '\'' :: (Visible.text symbol ++ '\'' :: List.replicate width ' ') :=
    ⟨6 - (Visible.text symbol).length, by simp [shownSymbol, padTo, Text.concat]⟩
  -- behind the closing quote the padding and the space in front of the count are one run
  have hrow : summaryRow symbol count = [' ', ' ', '\''] ++ (Visible.text symbol ++ '\'' ::
      (List.replicate (width + 1) ' ' ++ 'x' :: Text.ofNat count)) := by
    simp [summaryRow, hshown, Text.concat, List.replicate_succ']
  have hblanks : (List.replicate (width + 1) ' ' ++ 'x' :: Text.ofNat count).dropWhile
      (fun c => c = ' ') = 'x' :: Text.ofNat count := by
    rw [List.dropWhile_append_of_pos (by simp)]
    rfl
  rw [readSummaryLine?, hrow, Text.dropLead?_append]
  simp only [Option.bind_eq_bind, Option.bind_some, readQuoted?_text, hblanks]
  have hcount : Text.dropLead? ['x'] ('x' :: Text.ofNat count) = some (Text.ofNat count) :=
    Text.dropLead?_append ['x'] (Text.ofNat count)
  rw [hcount, Option.bind_some, Json.decimal_ofNat]

theorem readSummaryTotal?_summaryHeader (kind : TransformKind) (r : Record) :
    readSummaryTotal? kind (summaryHeader kind r) = some r.total := by
  have hheader : summaryHeader kind r = summaryLead kind ++
      (Text.ofNat r.total ++ .concat [" total, ", .ofNat r.distinct, " distinct):"]) := by
    simp [summaryHeader, summaryLead, Text.concat]
  have hdigits : (Text.ofNat r.total ++
      .concat [" total, ", .ofNat r.distinct, " distinct):"]).takeWhile Char.isDigit =
        Text.ofNat r.total := by
    refine takeWhile_append_of_stop (fun c hc => Json.isDigit_of_mem_ofNat hc) ?_
    intro c hc
    obtain rfl : ' ' = c := by simpa [Text.concat] using hc
    decide
  rw [readSummaryTotal?, hheader, Text.dropLead?_append, Option.bind_eq_bind, Option.bind_some,
    hdigits, Json.decimal_ofNat]

/-! ## Controls -/

theorem showsNoControl_shownSymbol (symbol : Text) : ShowsNoControl (shownSymbol symbol) := by
  have hquoted : ShowsNoControl (.concat ["'", Visible.text symbol, "'"]) := by
    refine showsNoControl_concat fun part hpart => ?_
    simp only [List.mem_cons, List.not_mem_nil, or_false] at hpart
    rcases hpart with rfl | rfl | rfl
    · decide
    · exact showsNoControl_text symbol
    · decide
  have hblanks (width : Nat) : ShowsNoControl (List.replicate width ' ') := by
    intro c hc
    obtain rfl := List.eq_of_mem_replicate hc
    decide
  exact showsNoControl_append.2 ⟨hquoted, hblanks _⟩

theorem showsNoControl_summaryRow (symbol : Text) (count : Nat) :
    ShowsNoControl (summaryRow symbol count) := by
  refine showsNoControl_concat fun part hpart => ?_
  simp only [List.mem_cons, List.not_mem_nil, or_false] at hpart
  rcases hpart with rfl | rfl | rfl | rfl
  · decide
  · exact showsNoControl_shownSymbol symbol
  · decide
  · exact showsNoControl_ofNat count

theorem showsNoControl_summaryHeader (kind : TransformKind) (r : Record) :
    ShowsNoControl (summaryHeader kind r) := by
  refine showsNoControl_concat fun part hpart => ?_
  simp only [List.mem_cons, List.not_mem_nil, or_false] at hpart
  rcases hpart with rfl | rfl | rfl | rfl | rfl | rfl | rfl
  · decide
  · cases kind <;> decide
  · decide
  · exact showsNoControl_ofNat r.total
  · decide
  · exact showsNoControl_ofNat r.distinct
  · decide

/-! ## Summaries -/

def summaryRows (kind : TransformKind) (r : Record) : List Text :=
  summaryHeader kind r :: r.counts.entries.map fun entry => summaryRow entry.1 entry.2

theorem summaryText_false (kind : TransformKind) (r : Record) :
    summaryText false kind (some r) = (summaryRows kind r).flatMap (· ++ ['\n']) := by
  simp [summaryText, summaryRows, summaryLine_false, List.flatMap_map]

theorem showsNoControl_summaryRows (kind : TransformKind) (r : Record) :
    ∀ line ∈ summaryRows kind r, ShowsNoControl line := by
  intro line hline
  rcases List.mem_cons.1 hline with rfl | hline
  · exact showsNoControl_summaryHeader kind r
  · obtain ⟨entry, -, rfl⟩ := List.mem_map.1 hline
    exact showsNoControl_summaryRow entry.1 entry.2

theorem map_readSummaryLine? (entries : List (Text × Nat)) :
    (entries.map fun entry => summaryRow entry.1 entry.2).map readSummaryLine? =
      entries.map some := by
  rw [List.map_map]
  exact List.map_congr_left fun entry _ => readSummaryLine?_summaryRow entry.1 entry.2

/-- The header says the total and the lines say the counts. -/
theorem eq_of_summaryRows_eq {kind : TransformKind} {r s : Record}
    (h : summaryRows kind r = summaryRows kind s) : r = s := by
  obtain ⟨hheader, hrows⟩ := List.cons.inj h
  have htotal : r.total = s.total := by
    refine Option.some.inj ?_
    rw [← readSummaryTotal?_summaryHeader kind r, hheader, readSummaryTotal?_summaryHeader]
  have hentries : r.counts.entries = s.counts.entries := by
    refine List.map_inj_right (fun _ _ => Option.some.inj) |>.1 ?_
    rw [← map_readSummaryLine?, hrows, map_readSummaryLine?]
  -- the order of the entries is a proof, and no part of what they say
  obtain ⟨⟨entries, hincreasing⟩, total⟩ := r
  obtain ⟨⟨entries', hincreasing'⟩, total'⟩ := s
  obtain rfl : entries = entries' := hentries
  obtain rfl : total = total' := htotal
  rfl

/--
A summary without colours is its header and one line for each symbol, all ended by line feeds,
which are the only controls in it.  The lines are read back as the symbols and their counts, in
their order, so that records of one kind with the same summary are the same.
-/
theorem summaryText_lines (kind : TransformKind) :
    (∀ r : Record, ∃ lines : List Text,
      (summaryText false kind (some r)).splitOn '\n' = summaryHeader kind r :: lines ++ [[]] ∧
      lines.length = r.distinct ∧
      lines.map readSummaryLine? = r.counts.entries.map some ∧
      (summaryText false kind (some r)).filter (IsControl ·) =
        List.replicate (r.distinct + 1) '\n') ∧
    Function.Injective fun r : Record => summaryText false kind (some r) := by
  refine ⟨fun r => ?_, fun r s h => ?_⟩
  · have hclean := showsNoControl_summaryRows kind r
    refine ⟨r.counts.entries.map fun entry => summaryRow entry.1 entry.2, ?_,
      List.length_map _, map_readSummaryLine? _, ?_⟩
    · rw [summaryText_false, splitOn_flatMap_lines hclean, summaryRows]
    rw [summaryText_false]
    rw [filter_isControl_flatMap_lines hclean]
    simp [summaryRows, Record.distinct, SymbolCounts.distinct]
  · have hsplit := congrArg (fun t : Text => t.splitOn '\n') h
    simp only [summaryText_false] at hsplit
    rw [splitOn_flatMap_lines (showsNoControl_summaryRows kind r),
      splitOn_flatMap_lines (showsNoControl_summaryRows kind s)] at hsplit
    exact eq_of_summaryRows_eq (List.append_cancel_right hsplit)

end ShellGuard
