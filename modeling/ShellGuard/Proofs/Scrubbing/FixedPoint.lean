import ShellGuard.Proofs.Scrubbing.Settled

/-!
# FixedPoint — scrubbed arguments are left alone

A second pass over scrubbed arguments changes nothing.  It may copy markers at other places than
the first pass wrote them, since markers can overlap themselves and the text around them.  A
misplaced copy would leave the rest of a marker behind, which matters only if that rest holds a
number sign.  The first number sign of the marker rules that out: text that was kept holds none
outside escapes, so a copy that started too early would have its first number sign too late.

## Main statements

* `not_leads_of_settled` — with a number sign in it, a marker is copied nowhere but where one was
  written.
* `symbols_passEdits_eq_nil` — a pass removes nothing from settled text.
* `Scrubber.run_run_text` — scrubbing once more gives the same text and no record.
-/

namespace ShellGuard
namespace Scrubber

open EscapeConvention Marker

variable {e : Char} {marker : Text} {escaped : Bool}

theorem source_passEdits (t : Text) : Edit.source (passEdits e marker escaped t) = t := by
  induction t using pass_induction marker generalizing escaped with
  | nil => simp
  | mark t hne ih => simp [passEdits_marker hne, ih]
  | char c t hlead ih =>
    have hbefore : (passEdit marker escaped c).before = [c] := by
      unfold passEdit
      split <;> rfl
    simp [passEdits_char hlead, hbefore, ih]

/-! ## Markers that hold no number sign -/

theorem Settled.append_allowed {u t : Text} (hu : ∀ c ∈ u, Shell.isAllowed c)
    (ht : Settled e [] (escapesNext e escaped u) t) : Settled e [] escaped (u ++ t) := by
  induction u generalizing escaped with
  | nil => exact ht
  | cons c u ih =>
    have hc : Shell.isAllowed c := hu c List.mem_cons_self
    have hrest := ih (fun d hd => hu d (List.mem_cons_of_mem c hd)) ht
    exact .char (by rw [hc, Bool.true_or]) hrest

theorem Settled.of_append {u t : Text} (h : Settled e [] escaped (u ++ t)) :
    Settled e [] (escapesNext e escaped u) t := by
  induction u generalizing escaped with
  | nil => exact h
  | cons c u ih =>
    cases h with
    | mark _ hne _ => exact absurd rfl hne
    | char hc ht => exact ih ht

/-- If all of the marker is allowed, its copies are as good as any text. -/
theorem Settled.without_marker {t : Text} (h : Settled e marker escaped t) (he : e ∉ marker)
    (hmarker : ∀ c ∈ marker, Shell.isAllowed c) : Settled e [] escaped t := by
  induction h with
  | nil escaped => exact .nil escaped
  | mark escaped hne ht ih =>
    -- behind the marker the bit is cleared, as it is behind its characters one by one
    have hbit : escapesNext e escaped marker = false := escapesNext_eq_false_of_not_mem hne he
    refine Settled.append_allowed hmarker ?_
    simpa [hbit] using ih
  | char hc ht ih => exact .char hc ih

theorem symbols_passEdits_of_settled_nil {t : Text} (h : Settled e [] escaped t)
    (he : e ∉ marker) : Edit.symbols (passEdits e marker escaped t) = [] := by
  induction t using pass_induction marker generalizing escaped with
  | nil => simp
  | mark t hne ih =>
    -- this copy may stand where the first pass wrote no marker; what is left is settled as well
    have ht : Settled e [] false t := by
      simpa [escapesNext_eq_false_of_not_mem hne he] using h.of_append
    simpa [passEdits_marker hne] using ih ht
  | char c t hlead ih =>
    cases h with
    | mark _ hne _ => exact absurd rfl hne
    | char hc ht =>
      have hrest := ih ht
      simpa [passEdits_char hlead, passEdit, hc, Edit.keepChar] using hrest

/-! ## Markers that hold a number sign -/

/--
Where settled text holds a number sign that is not escaped, a marker was written: in front of it
stands no number sign, and the text goes on like the marker or ends within it.
-/
theorem Settled.exists_marker_start {t y : Text} (h : Settled e marker escaped t)
    (hbit : escaped = false) (hy : y <+: t) (hsign : '#' ∈ y) (he : e ∉ y) :
    ∃ z v, y = z ++ v ∧ '#' ∉ z ∧ '#' ∈ v ∧ (v <+: marker ∨ marker <+: v) := by
  induction h generalizing y with
  | nil =>
    rw [List.prefix_nil.1 hy] at hsign
    cases hsign
  | @mark escaped t hne ht ih =>
    -- the text goes on with a whole marker, so one of the two begins with the other
    have hcomparable := List.prefix_or_prefix_of_prefix hy (List.prefix_append marker t)
    exact ⟨[], y, rfl, List.not_mem_nil, hsign, hcomparable⟩
  | @char escaped c t hc ht ih =>
    subst hbit
    cases y with
    | nil => cases hsign
    | cons d y =>
      rcases List.cons_prefix_cons.1 hy with ⟨rfl, hrest⟩
      -- an unescaped character that was kept is allowed, so it is no number sign
      have hds : '#' ≠ d := by
        rintro rfl
        revert hc
        decide
      rcases List.ne_and_not_mem_of_not_mem_cons he with ⟨hed, he'⟩
      have hsign' : '#' ∈ y := List.mem_of_ne_of_mem hds hsign
      obtain ⟨z, v, rfl, hz, hv, hmarker⟩ := ih (by simp [hed.symm]) hrest hsign' he'
      exact ⟨d :: z, v, rfl, List.not_mem_cons_of_ne_of_not_mem hds hz, hv, hmarker⟩

theorem not_prefix_of_append {u v : Text} (hu : u ≠ []) (husign : '#' ∉ u) (hvsign : '#' ∈ v) :
    ¬ v <+: u ++ v := by
  rintro ⟨w, hw⟩
  -- the first number sign stands at one place in `v` and further behind in `u ++ v`
  have hfirst : (u ++ v).idxOf '#' = v.idxOf '#' := by
    rw [← hw, List.idxOf_append_of_mem hvsign]
  have hlater : (u ++ v).idxOf '#' = u.length + v.idxOf '#' :=
    List.idxOf_append_of_notMem husign
  have hpos : 0 < u.length := List.length_pos_iff.2 hu
  omega

/-- With a number sign in it, a marker starts nowhere in settled text but where one was written. -/
theorem not_leads_of_settled {c : Char} {t : Text} (hsign : '#' ∈ marker) (he : e ∉ marker)
    (hhead : marker.head? ≠ some '#') (ht : Settled e marker (c = e && !escaped) t) :
    ¬ Leads marker (c :: t) := by
  rintro ⟨hne, hprefix⟩
  obtain ⟨d, y, rfl⟩ := List.exists_cons_of_ne_nil hne
  rcases List.cons_prefix_cons.1 hprefix with ⟨rfl, hy⟩
  have hds : '#' ≠ d := by
    rintro rfl
    exact hhead rfl
  rcases List.ne_and_not_mem_of_not_mem_cons he with ⟨hed, he'⟩
  have hsign' : '#' ∈ y := List.mem_of_ne_of_mem hds hsign
  obtain ⟨z, v, rfl, hz, hv, hcomparable⟩ :=
    ht.exists_marker_start (by simp [hed.symm]) hy hsign' he'
  have hdz : '#' ∉ d :: z := List.not_mem_cons_of_ne_of_not_mem hds hz
  rcases hcomparable with hbegins | hlonger
  · exact not_prefix_of_append (List.cons_ne_nil d z) hdz hv hbegins
  · have hlength := hlonger.length_le
    simp only [List.length_cons, List.length_append] at hlength
    omega

theorem symbols_passEdits_of_sign {t : Text} (h : Settled e marker escaped t)
    (hsign : '#' ∈ marker) (he : e ∉ marker) (hhead : marker.head? ≠ some '#') :
    Edit.symbols (passEdits e marker escaped t) = [] := by
  induction h with
  | nil => simp
  | mark escaped hne ht ih => simpa [passEdits_marker hne] using ih
  | char hc ht ih =>
    have hlead := not_leads_of_settled hsign he hhead ht
    simpa [passEdits_char hlead, passEdit, hc, Edit.keepChar] using ih

/-! ## Any marker -/

/-- A pass removes nothing from settled text. -/
theorem symbols_passEdits_eq_nil (convention : EscapeConvention) (hmarker : fault? marker = none)
    {t : Text} (h : Settled convention.char marker escaped t) :
    Edit.symbols (passEdits convention.char marker escaped t) = [] := by
  have he := not_mem_of_fault?_eq_none hmarker convention
  by_cases hsign : '#' ∈ marker
  · exact symbols_passEdits_of_sign h hsign he (head?_ne_of_fault?_eq_none hmarker)
  · have hallowed : ∀ c ∈ marker, Shell.isAllowed c := by
      intro c hc
      refine isAllowed_of_fault?_eq_none hmarker hc ?_
      rintro rfl
      exact hsign hc
    exact symbols_passEdits_of_settled_nil (h.without_marker he hallowed) he

theorem run_of_settled (s : Scrubber) (hpattern : s.pattern? = none) {t : Text}
    (h : Settled s.convention.char s.marker false t) : s.run t = ⟨t, none⟩ := by
  have hsymbols := symbols_passEdits_eq_nil s.convention s.marker_safe h
  have htarget : Edit.target (passEdits s.convention.char s.marker false t) = t := by
    rw [Edit.target_eq_source hsymbols, source_passEdits]
  calc
    s.run t = .ofEdits (passEdits s.convention.char s.marker false t) :=
      s.run_eq_ofEdits_passEdits hpattern t
    _ = ⟨t, none⟩ := by
      rw [Outcome.ofEdits, htarget, hsymbols]
      rfl

/-- Scrubbed arguments are a fixed point: the same text comes out again, and no record. -/
theorem run_run_text (settings : ScrubSettings) {s : Scrubber}
    (hpattern : settings.pattern? = none) (hs : ofSettings settings = .ok s) (arguments : Text) :
    s.run (s.run arguments).text = ⟨(s.run arguments).text, none⟩ := by
  have hnone := (eq_of_ofSettings hpattern hs).2.2
  exact s.run_of_settled hnone (s.settled_run hnone arguments)

/-- A kept letter and the marker behind it look like the beginning of a marker. -/
theorem run_run_text_overlapping :
    ∃ s, ofSettings ⟨.backtick, ['a', '#', 'a'], none⟩ = .ok s ∧
      (s.run ['a', ';', '|']).text = ['a', 'a', '#', 'a', 'a', '#', 'a'] ∧
      s.run (s.run ['a', ';', '|']).text = ⟨(s.run ['a', ';', '|']).text, none⟩ := by
  refine ⟨_, rfl, ?_, run_run_text ⟨.backtick, ['a', '#', 'a'], none⟩ rfl rfl _⟩
  decide +kernel

end Scrubber
end ShellGuard
