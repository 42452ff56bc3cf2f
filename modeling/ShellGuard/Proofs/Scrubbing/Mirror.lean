import ShellGuard.Proofs.Scrubbing.Pass

/-!
# Mirror — the two conventions differ in nothing but their escape character

Exchange the two escape characters in the arguments, and use the other convention: the output is
the same with the two characters exchanged, and the record is the same as it is.  A record holds no
escape character, since both of them may stand in any arguments; a marker holds none either, since
neither of them is safe there.

The proof follows the single pass.  The exchange commutes with each of its steps, so the edits are
the same but for the exchanged characters.

## Main definitions

* `EscapeConvention.mirror`, `EscapeConvention.mirrorChar`, `EscapeConvention.mirrorText` — the other
  convention, and the exchange of the two escape characters.
* `Edit.mirror` — an edit of exchanged text.

## Main statements

* `Scrubber.passEdits_mirror` — a pass over exchanged text.
* `Scrubber.run_mirror` — arguments scrubbed under the other convention.
-/

namespace ShellGuard

/-! ## The exchange -/

namespace EscapeConvention

def mirror : EscapeConvention → EscapeConvention
  | backtick => backslash
  | backslash => backtick

/-- A character, with a backslash for a backtick and a backtick for a backslash. -/
def mirrorChar (c : Char) : Char :=
  if c = '\x60' then '\\' else if c = '\\' then '\x60' else c

def mirrorText (t : Text) : Text :=
  t.map mirrorChar

@[simp] theorem mirrorText_nil : mirrorText [] = [] := rfl

@[simp] theorem mirrorText_cons (c : Char) (t : Text) :
    mirrorText (c :: t) = mirrorChar c :: mirrorText t := rfl

@[simp] theorem mirrorText_append (s t : Text) :
    mirrorText (s ++ t) = mirrorText s ++ mirrorText t :=
  List.map_append

theorem mirrorChar_char (convention : EscapeConvention) :
    mirrorChar convention.char = convention.mirror.char := by
  cases convention <;> rfl

/-- Only the escape characters are exchanged. -/
theorem mirrorChar_of_ne {c : Char} (h : ∀ convention : EscapeConvention, c ≠ convention.char) :
    mirrorChar c = c := by
  have hbacktick : c ≠ '\x60' := h backtick
  have hbackslash : c ≠ '\\' := h backslash
  rw [mirrorChar, if_neg hbacktick, if_neg hbackslash]

theorem mirrorChar_mirrorChar (c : Char) : mirrorChar (mirrorChar c) = c := by
  by_cases h : ∃ convention : EscapeConvention, c = convention.char
  · obtain ⟨convention, rfl⟩ := h
    cases convention <;> rfl
  · have hself : mirrorChar c = c := mirrorChar_of_ne (not_exists.1 h)
    rw [hself, hself]

theorem mirrorText_mirrorText (t : Text) : mirrorText (mirrorText t) = t := by
  rw [mirrorText, mirrorText, List.map_map]
  exact List.map_id'' mirrorChar_mirrorChar t

theorem mirrorChar_eq_iff (convention : EscapeConvention) (c : Char) :
    mirrorChar c = convention.mirror.char ↔ c = convention.char := by
  rw [← mirrorChar_char]
  constructor
  · intro heq
    rw [← mirrorChar_mirrorChar c, heq, mirrorChar_mirrorChar]
  · intro heq
    rw [heq]

/-- A character that may not stay is no escape character. -/
theorem mirrorChar_of_not_isAllowed {c : Char} (h : ¬ Shell.isAllowed c) : mirrorChar c = c := by
  apply mirrorChar_of_ne
  rintro convention rfl
  exact h convention.isAllowed_char

theorem isAllowed_mirrorChar (c : Char) :
    Shell.isAllowed (mirrorChar c) = Shell.isAllowed c := by
  by_cases h : ∃ convention : EscapeConvention, c = convention.char
  · obtain ⟨convention, rfl⟩ := h
    rw [mirrorChar_char, convention.isAllowed_char, convention.mirror.isAllowed_char]
  · rw [mirrorChar_of_ne (not_exists.1 h)]

end EscapeConvention

open EscapeConvention

/-- A marker that was accepted stays as it is. -/
theorem Marker.mirrorText_of_fault?_eq_none {marker : Text} (h : fault? marker = none) :
    mirrorText marker = marker := by
  have hself : ∀ c ∈ marker, mirrorChar c = id c := by
    intro c hc
    apply mirrorChar_of_ne
    rintro convention rfl
    exact not_mem_of_fault?_eq_none h convention hc
  rw [mirrorText, List.map_congr_left hself, List.map_id]

/-- Exchanged text starts with a marker where the text does. -/
theorem Marker.leads_mirrorText_iff {marker : Text} (h : mirrorText marker = marker) (t : Text) :
    Leads marker (mirrorText t) ↔ Leads marker t := by
  have hforth : ∀ u, marker <+: u → marker <+: mirrorText u := by
    intro u hu
    have hmap : mirrorText marker <+: mirrorText u := hu.map mirrorChar
    rwa [h] at hmap
  constructor
  · rintro ⟨hne, hprefix⟩
    have hback := hforth _ hprefix
    rw [mirrorText_mirrorText] at hback
    exact ⟨hne, hback⟩
  · rintro ⟨hne, hprefix⟩
    exact ⟨hne, hforth t hprefix⟩

/-! ## Edits of exchanged text -/

namespace Edit

/-- The edit, with the two escape characters exchanged in what it reads and what it writes. -/
def mirror : Edit → Edit
  | keep text => keep (mirrorText text)
  | replace symbol text => replace (mirrorText symbol) (mirrorText text)

theorem target_map_mirror (edits : List Edit) :
    target (edits.map mirror) = mirrorText (target edits) := by
  induction edits with
  | nil => rfl
  | cons edit edits ih =>
    have hafter : edit.mirror.after = mirrorText edit.after := by
      cases edit <;> rfl
    rw [List.map_cons, target_cons, target_cons, mirrorText_append, hafter, ih]

end Edit

namespace Scrubber

open Marker

variable {marker : Text} {escaped : Bool}

/-- One character is edited alike under both conventions, and its symbol is the same. -/
theorem passEdit_mirrorChar (hmarker : mirrorText marker = marker) (escaped : Bool) (c : Char) :
    passEdit marker escaped (mirrorChar c) = (passEdit marker escaped c).mirror := by
  rw [passEdit, passEdit, isAllowed_mirrorChar]
  by_cases hkeep : (Shell.isAllowed c || escaped) = true
  · rw [if_pos hkeep, if_pos hkeep]
    rfl
  · rw [if_neg hkeep, if_neg hkeep, Edit.mirror, hmarker]
    rfl

/-- A pass over exchanged text makes the same edits, with their text exchanged. -/
theorem passEdits_mirror (convention : EscapeConvention) (hmarker : mirrorText marker = marker)
    (t : Text) :
    passEdits convention.mirror.char marker escaped (mirrorText t) =
      (passEdits convention.char marker escaped t).map Edit.mirror := by
  -- the bit changes with every character, so the induction is for both of its values
  induction t using pass_induction marker generalizing escaped with
  | nil => simp
  | mark t hne ih =>
    rw [mirrorText_append, hmarker, passEdits_marker hne, passEdits_marker hne, ih, List.map_cons,
      Edit.mirror, hmarker]
  | char c t hlead ih =>
    have hlead' : ¬ Leads marker (mirrorChar c :: mirrorText t) := by
      intro h
      exact hlead ((leads_mirrorText_iff hmarker (c :: t)).1 h)
    -- the bit is set by the same character, under its other name
    have hbit : (decide (mirrorChar c = convention.mirror.char) && !escaped) =
        (decide (c = convention.char) && !escaped) := by
      rw [decide_eq_decide.2 (mirrorChar_eq_iff convention c)]
    rw [mirrorText_cons, passEdits_char hlead', passEdits_char hlead, hbit, ih, List.map_cons,
      passEdit_mirrorChar hmarker]

/-- What a pass counts is no escape character, so the exchange does not change it. -/
theorem symbols_map_mirror_passEdits (e : Char) (t : Text) :
    Edit.symbols ((passEdits e marker escaped t).map Edit.mirror) =
      Edit.symbols (passEdits e marker escaped t) := by
  induction t using pass_induction marker generalizing escaped with
  | nil => simp
  | mark t hne ih =>
    rw [passEdits_marker hne]
    exact ih
  | char c t hlead ih =>
    rw [passEdits_char hlead, List.map_cons, passEdit]
    by_cases hkeep : (Shell.isAllowed c || escaped) = true
    · rw [if_pos hkeep]
      exact ih
    · have hc : ¬ Shell.isAllowed c := fun hallowed => hkeep (by rw [hallowed, Bool.true_or])
      rw [if_neg hkeep, Edit.mirror, Edit.symbols_replace_cons, Edit.symbols_replace_cons, ih,
        mirrorText_cons, mirrorText_nil, mirrorChar_of_not_isAllowed hc]

/--
The conventions are mirror images: settings that are accepted under one of them are accepted under
the other, and scrub exchanged arguments to the exchanged output, with the same record.
-/
theorem run_mirror (settings : ScrubSettings) {s : Scrubber}
    (hpattern : settings.pattern? = none) (hs : ofSettings settings = .ok s) :
    ∃ s', ofSettings { settings with convention := settings.convention.mirror } = .ok s' ∧
      ∀ arguments, s'.run (mirrorText arguments) =
        ⟨mirrorText (s.run arguments).text, (s.run arguments).record?⟩ := by
  obtain ⟨hconvention, hmarker, hnone⟩ := eq_of_ofSettings hpattern hs
  obtain ⟨convention, marker, pattern?⟩ := settings
  obtain rfl : s.convention = convention := hconvention
  obtain rfl : s.marker = marker := hmarker
  obtain rfl : pattern? = none := hpattern
  -- what a marker may be does not depend on the convention
  refine ⟨⟨s.convention.mirror, s.marker, none, s.marker_safe⟩, ?_, fun arguments => ?_⟩
  · unfold ofSettings
    split
    · next fault hfault => exact absurd (hfault.symm.trans s.marker_safe) (by simp)
    · rfl
  · have hself := mirrorText_of_fault?_eq_none s.marker_safe
    rw [run_eq_ofEdits_passEdits _ rfl, run_eq_ofEdits_passEdits s hnone]
    rw [passEdits_mirror s.convention hself, Outcome.ofEdits, Edit.target_map_mirror,
      symbols_map_mirror_passEdits]
    rfl

/-- Escape characters of both conventions, in runs, in front of symbols and behind a marker. -/
theorem run_mirror_runs :
    ∃ s s', ofSettings ⟨.backtick, ['x', '#'], none⟩ = .ok s ∧
      ofSettings ⟨.backslash, ['x', '#'], none⟩ = .ok s' ∧
      s'.run ['\\', ';', '\x60', '\\', '\\', '|', 'x', '#'] =
        ⟨['\\', ';', '\x60', '\\', '\\', 'x', '#', 'x', '#'],
          (s.run ['\x60', ';', '\\', '\x60', '\x60', '|', 'x', '#']).record?⟩ := by
  obtain ⟨s', hs', hrun⟩ := run_mirror ⟨.backtick, ['x', '#'], none⟩ rfl rfl
  refine ⟨_, s', rfl, hs', ?_⟩
  refine (hrun ['\x60', ';', '\\', '\x60', '\x60', '|', 'x', '#']).trans ?_
  congr 1
  decide +kernel

end Scrubber

end ShellGuard
