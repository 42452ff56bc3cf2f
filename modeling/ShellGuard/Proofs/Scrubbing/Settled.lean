import ShellGuard.Proofs.Scrubbing.Pass

/-!
# Settled — the text that the default rule writes

Scrubbed arguments are made of whole markers and of characters that are allowed or escaped.  That
shape speaks of the output alone, so it does not matter what was removed, or where the arguments
were cut on the way.

## Main definitions

* `Settled` — the shape of scrubbed text, given whether its first character is escaped.
* `Marker.Covers` — a place of a text that lies inside an occurrence of the marker.

## Main statements

* `settled_target_passEdits` — a pass writes settled text.
* `Settled.escaped_or_covered` — in settled text a character that is not allowed is escaped, or is a
  number sign inside a marker.
* `Scrubber.odd_runBefore_or_covers` — so it is in the output of a scrubber.
-/

namespace ShellGuard

/-- Does place `i` of the text lie inside an occurrence of the marker? -/
def Marker.Covers (marker t : Text) (i : Nat) : Prop :=
  ∃ before after, t = before ++ marker ++ after ∧
    before.length ≤ i ∧ i < before.length + marker.length

theorem Marker.Covers.append_left {marker t : Text} {i : Nat} (h : Covers marker t i)
    (s : Text) : Covers marker (s ++ t) (s.length + i) := by
  rcases h with ⟨before, after, rfl, hle, hlt⟩
  have hlength : (s ++ before).length = s.length + before.length := List.length_append
  refine ⟨s ++ before, after, by simp, ?_, ?_⟩
  · omega
  · omega

namespace Scrubber

open EscapeConvention Marker

/--
Text of whole markers and of characters that are allowed or escaped; the bit says whether its first
character is escaped.
-/
inductive Settled (e : Char) (marker : Text) : (escaped : Bool) → Text → Prop
  | nil (escaped : Bool) : Settled e marker escaped []
  | mark (escaped : Bool) {t : Text} (hne : marker ≠ []) (ht : Settled e marker false t) :
      Settled e marker escaped (marker ++ t)
  | char {escaped : Bool} {c : Char} {t : Text} (hc : Shell.isAllowed c || escaped)
      (ht : Settled e marker (c = e && !escaped) t) : Settled e marker escaped (c :: t)

variable {e : Char} {marker : Text} {escaped : Bool}

theorem settled_target_passEdits (hallowed : Shell.isAllowed e) (t : Text) :
    Settled e marker escaped (Edit.target (passEdits e marker escaped t)) := by
  induction t using pass_induction marker generalizing escaped with
  | nil => simpa using Settled.nil escaped
  | mark t hne ih => simpa [passEdits_marker hne] using Settled.mark escaped hne ih
  | char c t hlead ih =>
    rw [passEdits_char hlead, Edit.target_cons, passEdit]
    by_cases hkeep : (Shell.isAllowed c || escaped) = true
    · simpa [hkeep, Edit.keepChar] using Settled.char hkeep ih
    · -- a removed character is no escape character and was not escaped, so the bit stays
      rw [if_neg hkeep, Edit.after_replace]
      have hremoved : Shell.isAllowed c = false ∧ escaped = false := by simpa using hkeep
      rcases hremoved with ⟨hc, rfl⟩
      have hce : c ≠ e := by
        rintro rfl
        simp [hallowed] at hc
      rw [decide_eq_false hce, Bool.false_and]
      -- without a marker nothing is written at all
      rcases eq_or_ne marker [] with rfl | hne
      · exact ih
      · exact .mark false hne ih

/-- In settled text a character that is not allowed is escaped, or is a marker's number sign. -/
theorem Settled.escaped_or_covered {t : Text} (h : Settled e marker escaped t)
    (he : e ∉ marker) (hmarker : ∀ c ∈ marker, c ≠ '#' → Shell.isAllowed c) {i : Nat} {c : Char}
    (hi : t[i]? = some c) (hc : ¬ Shell.isAllowed c) :
    escapesNext e escaped (t.take i) ∨ (c = '#' ∧ Covers marker t i) := by
  induction h generalizing i with
  | nil => simp at hi
  | @mark escaped t hne ht ih =>
    rcases Nat.lt_or_ge i marker.length with hlt | hge
    · -- inside the marker only a number sign is not allowed
      rw [List.getElem?_append_left hlt] at hi
      have hsign : c = '#' := by
        by_contra hsign
        exact hc (hmarker c (List.mem_of_getElem? hi) hsign)
      exact .inr ⟨hsign, [], t, by simp, Nat.zero_le i, by simpa using hlt⟩
    · -- behind the marker the bit is cleared, whatever it was
      rw [List.getElem?_append_right hge] at hi
      have hbit : escapesNext e escaped ((marker ++ t).take i) =
          escapesNext e false (t.take (i - marker.length)) := by
        rw [List.take_append, List.take_of_length_le hge, escapesNext_append,
          escapesNext_eq_false_of_not_mem hne he]
      rcases ih hi with hescaped | ⟨hsign, hcovers⟩
      · exact .inl (hbit.trans hescaped)
      · have hcovers' := hcovers.append_left marker
        rw [Nat.add_sub_cancel' hge] at hcovers'
        exact .inr ⟨hsign, hcovers'⟩
  | @char escaped d t hd ht ih =>
    cases i with
    | zero =>
      have hdc : d = c := by simpa using hi
      rw [hdc, Bool.or_eq_true] at hd
      exact .inl (hd.resolve_left hc)
    | succ i =>
      rw [List.getElem?_cons_succ] at hi
      rcases ih hi with hescaped | ⟨hsign, hcovers⟩
      · exact .inl hescaped
      · have hcovers' := hcovers.append_left [d]
        rw [List.length_singleton, Nat.add_comm] at hcovers'
        exact .inr ⟨hsign, hcovers'⟩

theorem settled_run (s : Scrubber) (hpattern : s.pattern? = none) (arguments : Text) :
    Settled s.convention.char s.marker false (s.run arguments).text := by
  rw [run_eq_ofEdits_passEdits s hpattern]
  exact settled_target_passEdits s.convention.isAllowed_char arguments

/--
In scrubbed arguments a character that is not allowed stands behind an odd run of escape characters,
or is a number sign inside an occurrence of the marker.
-/
theorem odd_runBefore_or_covers (settings : ScrubSettings) {s : Scrubber}
    (hpattern : settings.pattern? = none) (hs : ofSettings settings = .ok s) (arguments : Text)
    {i : Nat} {c : Char} (hi : (s.run arguments).text[i]? = some c)
    (hc : ¬ Shell.isAllowed c) :
    Odd (runBefore settings.convention.char ((s.run arguments).text.take i)) ∨
      (c = '#' ∧ Covers settings.marker (s.run arguments).text i) := by
  rcases eq_of_ofSettings hpattern hs with ⟨hconvention, hmarker, hnone⟩
  have hsettled := s.settled_run hnone arguments
  rw [hconvention, hmarker] at hsettled
  have hsafe : fault? settings.marker = none := by
    rw [← hmarker]
    exact s.marker_safe
  rw [← escapesNext_iff_odd_runBefore]
  exact hsettled.escaped_or_covered (not_mem_of_fault?_eq_none hsafe settings.convention)
    (fun c hmem hsign => isAllowed_of_fault?_eq_none hsafe hmem hsign) hi hc

/-- With nothing in the place of what was removed, a pair and an escape make a run of three. -/
theorem odd_runBefore_or_covers_behind_removed :
    ∃ s, ofSettings ⟨.backslash, [], none⟩ = .ok s ∧
      (s.run ['\\', '\\', ';', '\\', '|']).text[3]? = some '|' ∧ ¬ Shell.isAllowed '|' ∧
      (Odd (runBefore '\\' ((s.run ['\\', '\\', ';', '\\', '|']).text.take 3)) ∨
        ('|' = '#' ∧ Covers [] (s.run ['\\', '\\', ';', '\\', '|']).text 3)) := by
  have hi : ((⟨.backslash, [], none, rfl⟩ : Scrubber).run
      ['\\', '\\', ';', '\\', '|']).text[3]? = some '|' := by
    decide +kernel
  have hc : ¬ Shell.isAllowed '|' := by decide
  exact ⟨_, rfl, hi, hc, odd_runBefore_or_covers ⟨.backslash, [], none⟩ rfl rfl _ hi hc⟩

end Scrubber

end ShellGuard
