import ShellGuard.Proofs.Scrubbing.Acceptance
import ShellGuard.Proofs.Transforms

/-!
# Balance — a record accounts for the length of the output

Every symbol that gives way makes the value longer or shorter by an amount that depends on the
symbol alone.  So the record tells how long the output is: the input, what frames it, and for each
symbol its count times that amount.  A symbol that was replaced and not counted, or counted under
another name, would leave a difference.

The induction is over the edits of a transform.  Each transform only has to say by how much each of
its edits makes a symbol longer.

## Main definitions

* `Edit.Grows` — an edit that makes its symbol longer by a given amount.
* `Outcome.account` — the record of an outcome, or the empty one.
* `Outcome.Balances` — the record accounts for the difference between value and output.
* `Neutralizing.growth`, `Escaping.growth` — by how much two of the transforms make a symbol longer.

## Main statements

* `Edit.length_target` — how long the output of edits is.
* `Outcome.balances_ofEdits` — the outcome of edits that grow as expected balances.
* `Outcome.balances_transforms` — the outcome of every transform balances.
-/

namespace ShellGuard

/-! ## Edits -/

namespace Edit

variable {growth : Text → Int} {edits : List Edit}

/-- Does the edit, if it replaces a symbol, make it longer by what is said of the symbol? -/
def Grows (growth : Text → Int) : Edit → Prop
  | keep _ => True
  | replace symbol text => (text.length : Int) = symbol.length + growth symbol

/-- The output is longer than the input by what the replaced symbols grow. -/
theorem length_target (h : ∀ edit ∈ edits, edit.Grows growth) :
    ((target edits).length : Int) =
      (source edits).length + SymbolCounts.weighSymbols growth (symbols edits) := by
  induction edits with
  | nil => rfl
  | cons edit edits ih =>
    rcases List.forall_mem_cons.1 h with ⟨hedit, hrest⟩
    have hlength := ih hrest
    cases edit with
    | keep text =>
      simp only [target_cons, source_cons, symbols_keep_cons, after_keep, before_keep,
        List.length_append]
      omega
    | replace symbol text =>
      have hgrown : (text.length : Int) = symbol.length + growth symbol := hedit
      simp only [target_cons, source_cons, symbols_replace_cons, after_replace, before_replace,
        List.length_append, SymbolCounts.weighSymbols]
      omega

theorem grows_escape {c : Char} (h : growth [c] = 1) : (escape c).Grows growth := by
  simp [escape, Grows, h]

end Edit

/-! ## Outcomes -/

namespace Outcome

variable {growth : Text → Int} {edits : List Edit} {value : Text}

/-- The record; without one nothing was counted. -/
def account (o : Outcome) : Record :=
  o.record?.getD ⟨.empty, 0⟩

/--
Does the record account for the difference between value and output?  The total is the sum of the
counts, no symbol is listed without having been counted, and the output is as long as the value with
its frame and what each counted symbol grows.
-/
structure Balances (o : Outcome) (value : Text) (frame : Nat) (growth : Text → Int) : Prop where
  total_eq : o.account.total = o.account.counts.sum
  counted : ∀ entry ∈ o.account.counts.entries, 1 ≤ entry.2
  length_eq : (o.text.length : Int) = value.length + frame + o.account.counts.weigh growth

/-- Without a symbol the counts are empty, as if there were a record. -/
theorem account_ofEdits (edits : List Edit) :
    (ofEdits edits).account =
      ⟨(Tally.empty.addAll (Edit.symbols edits)).counts, (Edit.symbols edits).length⟩ := by
  unfold account ofEdits
  dsimp only
  cases hrecord : Record.ofSymbols? (Edit.symbols edits) with
  | none =>
    rw [Record.ofSymbols?_eq_none_iff.1 hrecord]
    rfl
  | some record =>
    have htotal := Record.total_of_ofSymbols? hrecord
    rw [← htotal, Record.eq_of_ofSymbols? hrecord]
    rfl

/-- Edits that grow as it is said of their symbols make an outcome that balances. -/
theorem balances_ofEdits (hsource : Edit.source edits = value)
    (hgrows : ∀ edit ∈ edits, edit.Grows growth) : (ofEdits edits).Balances value 0 growth := by
  have haccount := account_ofEdits edits
  refine ⟨?_, ?_, ?_⟩
  · have hsum := Tally.sum_addAll Tally.empty (Edit.symbols edits)
    rw [haccount]
    exact (hsum.trans (Nat.zero_add _)).symm
  · rw [haccount]
    apply Tally.forall_mem_addAll
    · intro symbol _ n
      exact Nat.le_add_left 1 n
    · exact List.forall_mem_nil _
  · have hweigh := Tally.weigh_addAll growth Tally.empty (Edit.symbols edits)
    have hempty : Tally.empty.counts.weigh growth = 0 := rfl
    calc
      ((Edit.target edits).length : Int)
          = (Edit.source edits).length + SymbolCounts.weighSymbols growth (Edit.symbols edits) :=
            Edit.length_target hgrows
      _ = value.length + (0 : Nat) +
            (Tally.empty.addAll (Edit.symbols edits)).counts.weigh growth := by
            rw [hsource, hweigh, hempty]
            simp
      _ = value.length + (0 : Nat) + (ofEdits edits).account.counts.weigh growth := by
            rw [haccount]

/-- A frame around the text makes the outcome longer, and is not counted. -/
theorem Balances.framed {o : Outcome} (h : o.Balances value 0 growth) (left right : Text) :
    (Outcome.mk (left ++ o.text ++ right) o.record?).Balances value (left.length + right.length)
      growth := by
  refine ⟨h.total_eq, h.counted, ?_⟩
  have hlength := h.length_eq
  simp only [List.length_append]
  push_cast
  change _ = (value.length : Int) + _ + o.account.counts.weigh growth
  omega

end Outcome

/-! ## Neutralizing and escaping -/

namespace Neutralizing

/-- By how much a symbol grows: a line break is one space, a substitution is escaped twice. -/
def growth (symbol : Text) : Int :=
  if symbol = ['\r', '\n'] then -1
  else if symbol = ['\r'] ∨ symbol = ['\n'] then 0
  else if symbol = ['$', '('] then 2
  else 1

theorem grows_edit {c : Char} (hreturn : c ≠ '\r') (hfeed : c ≠ '\n') :
    (edit c).Grows growth := by
  unfold edit
  split
  · apply Edit.grows_escape
    simp [growth, hreturn, hfeed]
  · trivial

theorem grows_edits (value : Text) : ∀ edit ∈ edits value, edit.Grows growth := by
  refine forall_mem_edits (motive := Edit.Grows growth) rfl rfl rfl rfl ?_ value
  intro c hreturn hfeed
  exact grows_edit hreturn hfeed

end Neutralizing

namespace Escaping

/-- By how much a symbol grows: it takes a backslash, and a pair of line breaks is one space. -/
def growth (symbol : Text) : Int :=
  if symbol = ['\r', '\n'] then 0 else 1

theorem grows_edit (c : Char) : (edit c).Grows growth := by
  unfold edit
  split
  · apply Edit.grows_escape
    simp [growth]
  · trivial

theorem grows_edits (value : Text) : ∀ edit ∈ edits value, edit.Grows growth := by
  refine forall_mem_edits (motive := Edit.Grows growth) rfl rfl rfl ?_ ?_ value
  · intro x _
    trivial
  · intro c _ _
    exact grows_edit c

end Escaping

/-! ## Quoting and scrubbing -/

theorem Quoting.grows_edits (value : Text) : ∀ edit ∈ edits value, edit.Grows fun _ => 3 := by
  intro edit hedit
  obtain ⟨c, -, rfl⟩ := List.mem_map.1 hedit
  unfold Quoting.edit
  split
  · rfl
  · trivial

namespace Scrubber

variable {marker : Text}

/-- By how much a symbol grows that gives way to a marker. -/
def growth (marker symbol : Text) : Int :=
  marker.length - symbol.length

theorem grows_replace (marker symbol : Text) :
    (Edit.replace symbol marker).Grows (growth marker) := by
  unfold Edit.Grows growth
  omega

theorem grows_charEdit (e : Char) (before : Option Char) (c : Char) :
    (charEdit e marker before c).Grows (growth marker) := by
  unfold charEdit
  split
  · trivial
  · exact grows_replace marker [c]

theorem grows_matchEdit (found : Text) : (matchEdit marker found).Grows (growth marker) := by
  unfold matchEdit
  split
  · trivial
  · exact grows_replace marker found

theorem grows_allowEdits (e : Char) (before : Option Char) (segment : Text) :
    ∀ edit ∈ allowEdits e marker before segment, edit.Grows (growth marker) := by
  fun_induction allowEdits e marker before segment with
  | case1 => exact List.forall_mem_nil _
  | case2 before c t rest h _ ih => exact List.forall_mem_cons.2 ⟨trivial, ih⟩
  | case3 before c t h ih => exact List.forall_mem_cons.2 ⟨grows_charEdit e before c, ih⟩

theorem grows_edits (s : Scrubber) (arguments : Text) :
    ∀ edit ∈ s.edits arguments, edit.Grows (growth s.marker) := by
  refine s.forall_mem_edits arguments (fun _ => trivial) fun segment _ => ?_
  unfold segmentEdits
  split
  · exact forall_mem_findingEdits (fun _ => trivial) fun hit _ => grows_matchEdit hit.2
  · exact grows_allowEdits _ _ segment

end Scrubber

/-! ## Transforms -/

/--
Whatever the value, the record of every transform accounts for the length of the output.  Scrubbing
puts the accepted marker in the place of each symbol, under the default rule and under a pattern;
quoting adds two quotes, and three characters for each quote inside.
-/
theorem Outcome.balances_transforms :
    (∀ (settings : ScrubSettings) (s : Scrubber), Scrubber.ofSettings settings = .ok s →
        ∀ value, (s.run value).Balances value 0 fun symbol =>
          settings.marker.length - symbol.length) ∧
      (∀ value, (quote value).Balances value 2 fun _ => 3) ∧
      (∀ value, (neutralize value).Balances value 0 fun symbol =>
        if symbol = ['\r', '\n'] then -1
        else if symbol = ['\r'] ∨ symbol = ['\n'] then 0
        else if symbol = ['$', '('] then 2
        else 1) ∧
      ∀ value, (escape value).Balances value 0 fun symbol =>
        if symbol = ['\r', '\n'] then 0 else 1 := by
  refine ⟨?_, ?_, ?_, ?_⟩
  · intro settings s hs value
    have hmarker : s.marker = settings.marker := Scrubber.marker_of_ofSettings hs
    rw [← hmarker]
    exact balances_ofEdits (s.source_edits value) (s.grows_edits value)
  · intro value
    have hinner := balances_ofEdits (Quoting.divide_edits value).source (Quoting.grows_edits value)
    exact hinner.framed ['\''] ['\'']
  · intro value
    exact balances_ofEdits (Neutralizing.divide_edits value).source (Neutralizing.grows_edits value)
  · intro value
    exact balances_ofEdits (Escaping.divide_edits value).source (Escaping.grows_edits value)

/-- A match of two characters gives way to a marker of one, twice. -/
theorem Outcome.balances_transforms_shrinking :
    ∃ s, Scrubber.ofSettings ⟨.backslash, ['x'], some { pattern := ['a', 'b'] }⟩ = .ok s ∧
      (s.run ['a', 'b', ';', 'a', 'b']).text = ['x', ';', 'x'] ∧
      (s.run ['a', 'b', ';', 'a', 'b']).account.counts.entries = [(['a', 'b'], 2)] ∧
      (s.run ['a', 'b', ';', 'a', 'b']).Balances ['a', 'b', ';', 'a', 'b'] 0 fun symbol =>
        (['x'] : Text).length - symbol.length := by
  obtain ⟨s, hs, htext, hcounts⟩ :
      ∃ s, Scrubber.ofSettings ⟨.backslash, ['x'], some { pattern := ['a', 'b'] }⟩ = .ok s ∧
        (s.run ['a', 'b', ';', 'a', 'b']).text = ['x', ';', 'x'] ∧
        (s.run ['a', 'b', ';', 'a', 'b']).account.counts.entries = [(['a', 'b'], 2)] :=
    ⟨_, rfl, by decide +kernel⟩
  obtain ⟨hscrub, -⟩ := balances_transforms
  exact ⟨s, hs, htext, hcounts, hscrub _ s hs _⟩

/-- A pair of line breaks gets shorter by one, and a substitution longer by two. -/
example :
    (neutralize ['\r', '\n', '$', '(']).account.counts.entries =
        [(['\r', '\n'], 1), (['$', '('], 1)] ∧
      (neutralize ['\r', '\n', '$', '(']).text.length = 5 := by
  decide

end ShellGuard
