import ShellGuard.Proofs.Balance
import ShellGuard.Proofs.Scrubbing.FixedPoint

/-!
# Altered — where there is a record, the value has changed

Whether a value was altered is read off the record, and the output is never compared with the value.
The two could differ only if the edits of a value together wrote the value again.  For the default
rule that cannot be, since its output is settled, and settled arguments are left alone.  Escaping
and neutralizing write no line breaks, so a value that comes out unchanged has none; and every
symbol but a line break makes the output longer.

## Main definitions

* `Edit.Unbroken` — an edit that writes no line break.

## Main statements

* `Edit.subset_source_of_mem_symbols` — a symbol is made of characters of the value.
* `Outcome.record?_ofEdits_eq_none_iff` — edits that lengthen all symbols without line breaks.
* `record?_eq_none_iff_text_eq` — there is no record exactly if the output is the value.
-/

namespace ShellGuard

/-! ## Edits -/

namespace Edit

variable {edits : List Edit}

theorem subset_source_of_mem_symbols {symbol : Text} (h : symbol ∈ symbols edits) :
    symbol ⊆ source edits := by
  obtain ⟨edit, hedit, hsymbol⟩ := List.mem_filterMap.1 h
  have hbefore : edit.before = symbol := by
    cases edit with
    | keep text => cases hsymbol
    | replace found text =>
      cases hsymbol
      rfl
  intro c hc
  exact List.mem_flatMap.2 ⟨edit, hedit, by rwa [hbefore]⟩

/-- Does the edit write no line break? -/
def Unbroken (edit : Edit) : Prop :=
  '\r' ∉ edit.after ∧ '\n' ∉ edit.after

instance (edit : Edit) : Decidable edit.Unbroken :=
  inferInstanceAs (Decidable (_ ∧ _))

/-- A character that is escaped or kept is written, and nothing but a backslash with it. -/
theorem unbroken_ite {p : Prop} [Decidable p] {c : Char} (hreturn : c ≠ '\r') (hfeed : c ≠ '\n') :
    (if p then escape c else keepChar c).Unbroken := by
  split
  · simp [Unbroken, escape, hreturn.symm, hfeed.symm]
  · simp [Unbroken, keepChar, hreturn.symm, hfeed.symm]

theorem not_mem_target_of_unbroken (h : ∀ edit ∈ edits, edit.Unbroken) :
    '\r' ∉ target edits ∧ '\n' ∉ target edits := by
  constructor
  · intro hmem
    obtain ⟨edit, hedit, hafter⟩ := List.mem_flatMap.1 hmem
    exact (h edit hedit).1 hafter
  · intro hmem
    obtain ⟨edit, hedit, hafter⟩ := List.mem_flatMap.1 hmem
    exact (h edit hedit).2 hafter

end Edit

/-- Symbols that each weigh something weigh at least as much as there are of them. -/
theorem SymbolCounts.length_le_weighSymbols {weight : Text → Int} {symbols : List Text}
    (h : ∀ symbol ∈ symbols, 1 ≤ weight symbol) :
    (symbols.length : Int) ≤ weighSymbols weight symbols := by
  induction symbols with
  | nil => exact Int.le_refl 0
  | cons symbol symbols ih =>
    obtain ⟨hsymbol, hrest⟩ := List.forall_mem_cons.1 h
    have hlength := ih hrest
    rw [List.length_cons, weighSymbols]
    omega

namespace Outcome

variable {growth : Text → Int} {edits : List Edit} {value : Text}

/--
Edits that write no line break, and make every symbol without one longer, leave a record exactly if
the output is not the value.
-/
theorem record?_ofEdits_eq_none_iff (hsource : Edit.source edits = value)
    (hgrows : ∀ edit ∈ edits, edit.Grows growth) (hunbroken : ∀ edit ∈ edits, edit.Unbroken)
    (hgrowth : ∀ symbol, '\r' ∉ symbol → '\n' ∉ symbol → 1 ≤ growth symbol) :
    (ofEdits edits).record? = none ↔ (ofEdits edits).text = value := by
  constructor
  · intro hrecord
    have hsymbols := Record.ofSymbols?_eq_none_iff.1 hrecord
    exact (Edit.target_eq_source hsymbols).trans hsource
  · intro htext
    have htarget : Edit.target edits = Edit.source edits := Eq.trans htext hsource.symm
    -- the value is a text without line breaks, and so is each of its symbols
    obtain ⟨hreturn, hfeed⟩ := Edit.not_mem_target_of_unbroken hunbroken
    rw [htarget] at hreturn hfeed
    have hpositive : ∀ symbol ∈ Edit.symbols edits, 1 ≤ growth symbol := by
      intro symbol hsymbol
      have hsubset := Edit.subset_source_of_mem_symbols hsymbol
      exact hgrowth symbol (fun hmem => hreturn (hsubset hmem)) fun hmem => hfeed (hsubset hmem)
    have hlength := Edit.length_target hgrows
    have hweigh := SymbolCounts.length_le_weighSymbols hpositive
    rw [htarget] at hlength
    have hnone : Edit.symbols edits = [] := List.length_eq_zero_iff.1 (by omega)
    exact Record.ofSymbols?_eq_none_iff.2 hnone

/-- A value is handed back itself if there is no record. -/
theorem handed_eq_given_iff (o : Outcome) : o.handed = .given ↔ o.record? = none := by
  unfold handed isAltered
  cases o.record? <;> simp

/-- What is handed back reads like the output, whosever text it is. -/
theorem text_handed {o : Outcome} (h : o.record? = none → o.text = value) :
    o.handed.text value = o.text := by
  unfold handed isAltered
  cases hrecord : o.record? with
  | none => exact (h hrecord).symm
  | some record => rfl

/-- Where a record means a change, the value is handed back itself if it reads like the output. -/
theorem handed_eq_given_iff_text {o : Outcome} (h : o.record? = none ↔ o.text = value) :
    o.handed = .given ↔ o.handed.text value = value := by
  rw [handed_eq_given_iff, text_handed h.1, h]

end Outcome

/-! ## Neutralizing and escaping -/

namespace Neutralizing

theorem unbroken_edits (value : Text) : ∀ edit ∈ edits value, edit.Unbroken := by
  apply forall_mem_edits (motive := Edit.Unbroken) (by decide) (by decide) (by decide)
    (by decide)
  intro c hreturn hfeed
  exact Edit.unbroken_ite hreturn hfeed

/-- Only a line break does not make the output longer. -/
theorem one_le_growth (symbol : Text) (hreturn : '\r' ∉ symbol) (hfeed : '\n' ∉ symbol) :
    1 ≤ growth symbol := by
  have hpair : symbol ≠ ['\r', '\n'] := by
    rintro rfl
    exact hreturn (by decide)
  have hsingle : ¬ (symbol = ['\r'] ∨ symbol = ['\n']) := by
    rintro (rfl | rfl)
    · exact hreturn (by decide)
    · exact hfeed (by decide)
  rw [growth, if_neg hpair, if_neg hsingle]
  split <;> decide

end Neutralizing

namespace Escaping

theorem unbroken_edits (value : Text) : ∀ edit ∈ edits value, edit.Unbroken := by
  apply forall_mem_edits (motive := Edit.Unbroken) (by decide) (by decide) (by decide)
  · intro x hproper
    exact ⟨Shell.Expansion.not_mem_text hproper (by decide) (by decide),
      Shell.Expansion.not_mem_text hproper (by decide) (by decide)⟩
  · intro c hreturn hfeed
    exact Edit.unbroken_ite hreturn hfeed

theorem one_le_growth (symbol : Text) (hreturn : '\r' ∉ symbol) : 1 ≤ growth symbol := by
  have hpair : symbol ≠ ['\r', '\n'] := by
    rintro rfl
    exact hreturn (by decide)
  have hone : growth symbol = 1 := if_neg hpair
  exact Int.le_of_eq hone.symm

end Escaping

theorem record?_neutralize_eq_none_iff (value : Text) :
    (neutralize value).record? = none ↔ (neutralize value).text = value :=
  Outcome.record?_ofEdits_eq_none_iff (Neutralizing.divide_edits value).source
    (Neutralizing.grows_edits value) (Neutralizing.unbroken_edits value)
    Neutralizing.one_le_growth

theorem record?_escape_eq_none_iff (value : Text) :
    (escape value).record? = none ↔ (escape value).text = value :=
  Outcome.record?_ofEdits_eq_none_iff (Escaping.divide_edits value).source
    (Escaping.grows_edits value) (Escaping.unbroken_edits value)
    fun symbol hreturn _ => Escaping.one_le_growth symbol hreturn

/-! ## Scrubbing -/

/-- Scrubbed arguments that are the arguments were settled, and nothing of those is replaced. -/
theorem Scrubber.record?_run_eq_none_iff (s : Scrubber) (hpattern : s.pattern? = none)
    (arguments : Text) : (s.run arguments).record? = none ↔ (s.run arguments).text = arguments := by
  constructor
  · intro hrecord
    exact text_of_record?_eq_none hrecord
  -- the output is settled, so arguments that are the output are left alone
  · intro htext
    have hsettled := s.settled_run hpattern arguments
    rw [htext] at hsettled
    rw [s.run_of_settled hpattern hsettled]

/-! ## Every transform that may leave a value alone -/

/--
Scrubbing under the default rule, neutralizing and escaping leave a record exactly if their output
is not the value; and a value is handed back itself exactly if what is handed back reads like it.
-/
theorem record?_eq_none_iff_text_eq (settings : ScrubSettings) {s : Scrubber}
    (hpattern : settings.pattern? = none) (hs : Scrubber.ofSettings settings = .ok s)
    (value : Text) :
    ((s.run value).record? = none ↔ (s.run value).text = value) ∧
      ((neutralize value).record? = none ↔ (neutralize value).text = value) ∧
      ((escape value).record? = none ↔ (escape value).text = value) ∧
      ((neutralize value).handed = .given ↔ (neutralize value).handed.text value = value) ∧
      ((escape value).handed = .given ↔ (escape value).handed.text value = value) := by
  have hnone := (Scrubber.eq_of_ofSettings hpattern hs).2.2
  have hneutralize := record?_neutralize_eq_none_iff value
  have hescape := record?_escape_eq_none_iff value
  exact ⟨s.record?_run_eq_none_iff hnone value, hneutralize, hescape,
    Outcome.handed_eq_given_iff_text hneutralize, Outcome.handed_eq_given_iff_text hescape⟩

/-- Each symbol gives way to a text of its own length, and the output differs all the same. -/
theorem record?_eq_none_iff_text_eq_same_length :
    ∃ s, Scrubber.ofSettings ⟨.backslash, ['_'], none⟩ = .ok s ∧
      (s.run ['\r', ';']).text = ['_', '_'] ∧ (s.run ['\r', ';']).record? ≠ none ∧
      (escape ['\r', '\n']).text = ['\\', ' '] ∧ (escape ['\r', '\n']).handed ≠ .given := by
  obtain ⟨s, hs, hscrub⟩ : ∃ s, Scrubber.ofSettings ⟨.backslash, ['_'], none⟩ = .ok s ∧
      (s.run ['\r', ';']).text = ['_', '_'] :=
    ⟨⟨.backslash, ['_'], none, rfl⟩, rfl, by decide +kernel⟩
  have hescape : (escape ['\r', '\n']).handed.text ['\r', '\n'] ≠ ['\r', '\n'] := by
    decide +kernel
  obtain ⟨hscrubbed, -⟩ := record?_eq_none_iff_text_eq ⟨.backslash, ['_'], none⟩ rfl hs ['\r', ';']
  obtain ⟨-, -, -, -, hescaped⟩ :=
    record?_eq_none_iff_text_eq ⟨.backslash, ['_'], none⟩ rfl hs ['\r', '\n']
  refine ⟨s, hs, hscrub, ?_, by decide +kernel, ?_⟩
  · intro hrecord
    have hsame := hscrub.symm.trans (hscrubbed.1 hrecord)
    exact absurd hsame (by decide)
  · intro hgiven
    exact hescape (hescaped.1 hgiven)

end ShellGuard
