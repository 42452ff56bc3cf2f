import ShellGuard.Scrubbing.Scrubber

/-!
# Acceptance — what accepted settings promise

Settings are checked once, and the scrubber rests on what the check found: a marker that was
accepted holds neither escape characters nor anything else that arguments may not hold, but for
number signs behind its first character.

## Main statements

* `Marker.not_mem_of_fault?_eq_none` — no escape character stands in an accepted marker.
* `Marker.isAllowed_of_fault?_eq_none` — the number sign is the only symbol of an accepted marker
  that arguments may not hold.
* `Scrubber.marker_of_ofSettings`, `Scrubber.eq_of_ofSettings`,
  `Scrubber.eq_of_ofSettings_of_pattern` — an accepted scrubber keeps the settings.
-/

namespace ShellGuard

namespace EscapeConvention

theorem isAllowed_char (convention : EscapeConvention) : Shell.isAllowed convention.char := by
  cases convention <;> decide

theorem not_isSafe_char (convention : EscapeConvention) : ¬ Marker.isSafe convention.char := by
  cases convention <;> decide

end EscapeConvention

namespace Marker

variable {marker : Text}

theorem head?_ne_of_fault?_eq_none (h : fault? marker = none) : marker.head? ≠ some '#' := by
  intro hhead
  simp [fault?, hhead] at h

theorem isSafe_of_fault?_eq_none (h : fault? marker = none) {c : Char} (hc : c ∈ marker) :
    isSafe c := by
  rw [fault?, if_neg (head?_ne_of_fault?_eq_none h), Option.map_eq_none_iff,
    List.find?_eq_none] at h
  simpa using h c hc

theorem not_mem_of_fault?_eq_none (h : fault? marker = none) (convention : EscapeConvention) :
    convention.char ∉ marker := by
  intro hmem
  exact convention.not_isSafe_char (isSafe_of_fault?_eq_none h hmem)

theorem isAllowed_of_fault?_eq_none (h : fault? marker = none) {c : Char} (hc : c ∈ marker)
    (hsign : c ≠ '#') : Shell.isAllowed c := by
  have hsafe := isSafe_of_fault?_eq_none h hc
  simp only [isSafe, Bool.and_eq_true, Bool.or_eq_true, decide_eq_true_eq] at hsafe
  rcases hsafe.2 with heq | hallowed
  · exact absurd heq hsign
  · exact hallowed

end Marker

namespace Scrubber

/-- The marker of accepted settings is that of the scrubber, with a pattern or without. -/
theorem marker_of_ofSettings {settings : ScrubSettings} {s : Scrubber}
    (h : ofSettings settings = .ok s) : s.marker = settings.marker := by
  unfold ofSettings at h
  split at h
  · cases h
  · split at h
    · cases h
      rfl
    · split at h
      · cases h
      · cases h
        rfl

/-- A scrubber of settings without a pattern has their convention and marker, and no program. -/
theorem eq_of_ofSettings {settings : ScrubSettings} {s : Scrubber}
    (hpattern : settings.pattern? = none) (h : ofSettings settings = .ok s) :
    s.convention = settings.convention ∧ s.marker = settings.marker ∧ s.pattern? = none := by
  unfold ofSettings at h
  split at h
  · simp at h
  · rw [hpattern] at h
    cases h
    exact ⟨rfl, rfl, rfl⟩

/-- A scrubber of settings with a pattern has their convention and marker, and its program. -/
theorem eq_of_ofSettings_of_pattern {settings : ScrubSettings} {rule : PatternRule}
    {program : Regex.Program} {s : Scrubber} (hpattern : settings.pattern? = some rule)
    (hprogram : rule.compile = .ok program) (h : ofSettings settings = .ok s) :
    s.convention = settings.convention ∧ s.marker = settings.marker ∧
      s.pattern? = some program := by
  unfold ofSettings at h
  split at h
  · simp at h
  · rw [hpattern] at h
    simp only [hprogram] at h
    cases h
    exact ⟨rfl, rfl, rfl⟩

end Scrubber

end ShellGuard
