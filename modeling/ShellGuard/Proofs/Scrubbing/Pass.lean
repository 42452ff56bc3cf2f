import ShellGuard.Proofs.Scrubbing.OnePass

/-!
# Pass — a reader of the escape convention

The default rule as a machine: it stands somewhere in the arguments, knows whether the next
character is escaped, and has written and counted what came before.  It never cuts the arguments
and never looks back.

## Main definitions

* `Pass`, `Pass.copyMarker`, `Pass.take` — where the machine stands, and its two steps.
* `Pass.run`, `Pass.outcome` — the machine's way through a text, and what it answers at the end.

## Main statements

* `Pass.run_eq` — what the machine writes and counts from any place on is what the edits of the
  rest say.
* `Scrubber.run_eq_outcome_pass` — a scrubber without a pattern answers what the machine does.
-/

namespace ShellGuard

/-- Where a single pass through arguments stands. -/
structure Pass where
  /-- Is the next character escaped? -/
  escaped : Bool := false
  output : Text := []
  tally : Tally := .empty
  deriving DecidableEq, Repr

namespace Pass

/-- A marker is copied, and the character behind it is not escaped. -/
def copyMarker (marker : Text) (p : Pass) : Pass :=
  { p with escaped := false, output := p.output ++ marker }

/-- A character stays if it is allowed or escaped; any other gives way to the marker. -/
def take (e : Char) (marker : Text) (p : Pass) (c : Char) : Pass :=
  let next : Bool := c = e && !p.escaped
  if Shell.isAllowed c || p.escaped then ⟨next, p.output ++ [c], p.tally⟩
  else ⟨next, p.output ++ marker, p.tally.add [c]⟩

def run (e : Char) (marker : Text) : Pass → Text → Pass
  | p, [] => p
  | p, c :: t =>
    if h : Marker.Leads marker (c :: t) then
      have : (c :: t).length - marker.length < (c :: t).length := h.length_sub_lt
      run e marker (p.copyMarker marker) ((c :: t).drop marker.length)
    else run e marker (p.take e marker c) t
  termination_by _ t => t.length

def outcome (p : Pass) : Outcome :=
  ⟨p.output, p.tally.finish?⟩

variable {e : Char} {marker : Text}

theorem run_marker (h : marker ≠ []) (p : Pass) (t : Text) :
    run e marker p (marker ++ t) = run e marker (p.copyMarker marker) t := by
  obtain ⟨c, u, hcons, hlead, hdrop⟩ := Marker.exists_cons_leads h t
  rw [hcons, run, dif_pos hlead, hdrop]

theorem run_char {c : Char} {t : Text} (h : ¬ Marker.Leads marker (c :: t)) (p : Pass) :
    run e marker p (c :: t) = run e marker (p.take e marker c) t := by
  rw [run, dif_neg h]

/-- From any place on, the machine writes and counts what the edits of the rest say. -/
theorem run_eq (e : Char) (marker : Text) (p : Pass) (t : Text) :
    (run e marker p t).output =
        p.output ++ Edit.target (Scrubber.passEdits e marker p.escaped t) ∧
      (run e marker p t).tally =
        p.tally.addAll (Edit.symbols (Scrubber.passEdits e marker p.escaped t)) := by
  -- each step moves the machine, so the claim is about every place it may stand at
  induction t using Marker.pass_induction marker generalizing p with
  | nil => simp [run, Tally.addAll]
  | mark t hne ih =>
    have hrest := ih (p.copyMarker marker)
    rw [run_marker hne, Scrubber.passEdits_marker hne]
    simpa [copyMarker] using hrest
  | char c t hlead ih =>
    have hrest := ih (p.take e marker c)
    rw [run_char hlead, Scrubber.passEdits_char hlead]
    by_cases hkeep : (Shell.isAllowed c || p.escaped) = true
    · simpa [take, Scrubber.passEdit, Edit.keepChar, hkeep] using hrest
    · simpa [take, Scrubber.passEdit, hkeep, Tally.addAll] using hrest

end Pass

namespace Scrubber

theorem Agree.ofEdits_eq {a b : List Edit} (h : Agree a b) :
    Outcome.ofEdits a = Outcome.ofEdits b := by
  simp [Outcome.ofEdits, h.1, h.2]

theorem run_eq_ofEdits_passEdits (s : Scrubber) (hpattern : s.pattern? = none)
    (arguments : Text) :
    s.run arguments = .ofEdits (passEdits s.convention.char s.marker false arguments) :=
  (s.edits_agree_passEdits hpattern arguments).ofEdits_eq

/-- A scrubber of settings without a pattern answers what a single pass does. -/
theorem run_eq_outcome_pass (settings : ScrubSettings) {s : Scrubber}
    (hpattern : settings.pattern? = none) (hs : ofSettings settings = .ok s) (arguments : Text) :
    s.run arguments = (Pass.run settings.convention.char settings.marker {} arguments).outcome := by
  rcases eq_of_ofSettings hpattern hs with ⟨hconvention, hmarker, hnone⟩
  rcases Pass.run_eq s.convention.char s.marker {} arguments with ⟨houtput, htally⟩
  have houtcome : (Pass.run s.convention.char s.marker {} arguments).outcome =
      .ofEdits (passEdits s.convention.char s.marker false arguments) := by
    rw [Pass.outcome, houtput, htally]
    rfl
  calc
    s.run arguments
        = .ofEdits (passEdits s.convention.char s.marker false arguments) :=
          s.run_eq_ofEdits_passEdits hnone arguments
    _ = (Pass.run s.convention.char s.marker {} arguments).outcome := houtcome.symm
    _ = (Pass.run settings.convention.char settings.marker {} arguments).outcome := by
          rw [hconvention, hmarker]

/-- An odd run of escape characters protects one character, and only that one. -/
theorem run_eq_outcome_pass_behind_odd_run :
    ∃ s, ofSettings ⟨.backslash, ['x', '#'], none⟩ = .ok s ∧
      s.run ['\\', '\\', '\\', ';', '|', 'x', '#'] =
        (Pass.run '\\' ['x', '#'] {} ['\\', '\\', '\\', ';', '|', 'x', '#']).outcome ∧
      (s.run ['\\', '\\', '\\', ';', '|', 'x', '#']).text =
        ['\\', '\\', '\\', ';', 'x', '#', 'x', '#'] := by
  refine ⟨_, rfl, run_eq_outcome_pass ⟨.backslash, ['x', '#'], none⟩ rfl rfl _, ?_⟩
  decide +kernel

end Scrubber

end ShellGuard
