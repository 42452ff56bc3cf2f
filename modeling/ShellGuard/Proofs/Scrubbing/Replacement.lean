import ShellGuard.Proofs.Scrubbing.Acceptance
import ShellGuard.Proofs.Scrubbing.Edits

/-!
# Replacement — what becomes of the matches of a pattern

A search leaves a segment as gaps and matches in turn.  A match that is empty, or is the marker
already, is passed over: it and the gap in front of it belong to the gap of the next match.  What is
left are the matches that give way, each at the place where it was found, and the gaps between them
are copied.

## Main definitions

* `Span.slice`, `Span.Ordered` — the text of a span, and spans that follow each other.
* `Findings.spans`, `Findings.founds` — where the matches are, and what they say.
* `Findings.only` — the findings with some of the matches, and all of the text.
* `Findings.rewritten` — the text with a marker in the place of every match.

## Main statements

* `Findings.ordered_spans` — the spans of a search lie in the text, one behind the other.
* `Findings.map_slice_spans` — the matches say what their spans mark.
* `Findings.spans_only` — a match that is left is where it was found.
* `Scrubber.target_findingEdits` — what is written of a segment.
* `Scrubber.run_of_pattern` — the segments, their matches, what is written and what is counted.
-/

namespace ShellGuard
namespace Regex

/-! ## Spans -/

def Span.slice (span : Span) (t : Text) : Text :=
  (t.drop span.start).take (span.stop - span.start)

/-- Do the spans lie between two places, one behind the other?  A span may be empty. -/
def Span.Ordered : (start : Nat) → List Span → (stop : Nat) → Prop
  | start, [], stop => start ≤ stop
  | start, span :: spans, stop =>
    start ≤ span.start ∧ span.start ≤ span.stop ∧ Ordered span.stop spans stop

theorem Span.slice_append (before found behind : Text) :
    Span.slice ⟨before.length, before.length + found.length⟩ (before ++ found ++ behind) =
      found := by
  simp [slice]

namespace Findings

variable (p : Text → Bool) (marker tail : Text)

/-! ## Findings -/

/-- Where the matches are, if the first gap begins at `place`. -/
def spansFrom : (place : Nat) → (hits : List (Text × Text)) → List Span
  | _, [] => []
  | place, (gap, found) :: hits =>
    let start := place + gap.length
    ⟨start, start + found.length⟩ :: spansFrom (start + found.length) hits

def spans (f : Findings) : List Span :=
  spansFrom 0 f.hits

def founds (f : Findings) : List Text :=
  f.hits.map Prod.snd

/-- The text with a marker in the place of every match. -/
def rewritten (f : Findings) : Text :=
  (f.hits.flatMap fun hit => hit.1 ++ marker) ++ f.tail

theorem text_cons (hit : Text × Text) (hits : List (Text × Text)) :
    text ⟨hit :: hits, tail⟩ = hit.1 ++ hit.2 ++ text ⟨hits, tail⟩ := by
  simp [text]

/-- The first match is behind the first gap, whatever text stands in front of both. -/
theorem slice_first (before gap found : Text) (hits : List (Text × Text)) :
    Span.slice ⟨before.length + gap.length, before.length + gap.length + found.length⟩
      (before ++ text ⟨(gap, found) :: hits, tail⟩) = found := by
  have hfound := Span.slice_append (before ++ gap) found (text ⟨hits, tail⟩)
  simpa [text_cons] using hfound

theorem map_slice_spansFrom (before : Text) (hits : List (Text × Text)) :
    (spansFrom before.length hits).map (fun span => span.slice (before ++ text ⟨hits, tail⟩)) =
      hits.map Prod.snd := by
  induction hits generalizing before with
  | nil => rfl
  | cons hit hits ih =>
    obtain ⟨gap, found⟩ := hit
    have hrest := ih (before ++ gap ++ found)
    rw [spansFrom, List.map_cons, List.map_cons, slice_first]
    simpa [text_cons, Nat.add_assoc] using hrest

/-- The matches say what their spans mark in the text. -/
theorem map_slice_spans (f : Findings) :
    f.spans.map (fun span => span.slice f.text) = f.founds :=
  map_slice_spansFrom f.tail [] f.hits

theorem ordered_spansFrom (place : Nat) (hits : List (Text × Text)) :
    Span.Ordered place (spansFrom place hits) (place + (text ⟨hits, tail⟩).length) := by
  induction hits generalizing place with
  | nil => exact Nat.le_add_right place _
  | cons hit hits ih =>
    obtain ⟨gap, found⟩ := hit
    have hrest := ih (place + gap.length + found.length)
    have hlength : place + (text ⟨(gap, found) :: hits, tail⟩).length =
        place + gap.length + found.length + (text ⟨hits, tail⟩).length := by
      simp only [text_cons, List.length_append]
      omega
    rw [hlength]
    exact ⟨Nat.le_add_right place _, Nat.le_add_right _ _, hrest⟩

/-- The spans of a search lie in the text, one behind the other. -/
theorem ordered_spans (f : Findings) : Span.Ordered 0 f.spans f.text.length := by
  simpa [spans] using ordered_spansFrom f.tail 0 f.hits

/-! ## Some of the matches -/

def consText (t : Text) : Findings → Findings
  | ⟨[], tail⟩ => ⟨[], t ++ tail⟩
  | ⟨(gap, found) :: hits, tail⟩ => ⟨(t ++ gap, found) :: hits, tail⟩

@[simp] theorem text_consText (t : Text) (f : Findings) : (f.consText t).text = t ++ f.text := by
  rcases f with ⟨_ | ⟨⟨gap, found⟩, hits⟩, tail⟩ <;> simp [consText, text]

@[simp] theorem founds_consText (t : Text) (f : Findings) : (f.consText t).founds = f.founds := by
  rcases f with ⟨_ | ⟨⟨gap, found⟩, hits⟩, tail⟩ <;> rfl

@[simp] theorem rewritten_consText (t : Text) (f : Findings) :
    (f.consText t).rewritten marker = t ++ f.rewritten marker := by
  rcases f with ⟨_ | ⟨⟨gap, found⟩, hits⟩, tail⟩ <;> simp [consText, rewritten]

theorem spansFrom_consText (place : Nat) (t : Text) (f : Findings) :
    spansFrom place (f.consText t).hits = spansFrom (place + t.length) f.hits := by
  rcases f with ⟨_ | ⟨⟨gap, found⟩, hits⟩, tail⟩
  · rfl
  · simp [consText, spansFrom, Nat.add_assoc]

def onlyHits : (hits : List (Text × Text)) → Findings
  | [] => ⟨[], tail⟩
  | (gap, found) :: hits =>
    if p found then (onlyHits hits).consHit gap found
    else (onlyHits hits).consText (gap ++ found)

/-- The findings with the matches that pass a test; the others become text between them. -/
def only (f : Findings) : Findings :=
  onlyHits p f.tail f.hits

variable {p} in
theorem onlyHits_of_pass {found : Text} (h : p found) (gap : Text) (hits : List (Text × Text)) :
    onlyHits p tail ((gap, found) :: hits) = (onlyHits p tail hits).consHit gap found :=
  if_pos h

variable {p} in
theorem onlyHits_of_fail {found : Text} (h : ¬ p found) (gap : Text) (hits : List (Text × Text)) :
    onlyHits p tail ((gap, found) :: hits) = (onlyHits p tail hits).consText (gap ++ found) :=
  if_neg h

theorem text_onlyHits (hits : List (Text × Text)) :
    (onlyHits p tail hits).text = text ⟨hits, tail⟩ := by
  induction hits with
  | nil => rfl
  | cons hit hits ih =>
    obtain ⟨gap, found⟩ := hit
    by_cases h : p found
    · rw [onlyHits_of_pass tail h, text_consHit, ih, text_cons]
    · rw [onlyHits_of_fail tail h, text_consText, ih, text_cons]

/-- No text is lost with the matches that are passed over. -/
theorem text_only (f : Findings) : (f.only p).text = f.text :=
  text_onlyHits p f.tail f.hits

theorem founds_only (f : Findings) : (f.only p).founds = f.founds.filter p := by
  obtain ⟨hits, tail⟩ := f
  unfold only
  induction hits with
  | nil => rfl
  | cons hit hits ih =>
    obtain ⟨gap, found⟩ := hit
    by_cases h : p found
    · rw [onlyHits_of_pass tail h]
      simpa [founds, consHit, h] using ih
    · rw [onlyHits_of_fail tail h, founds_consText, ih]
      simp [founds, h]

/-- What is left of some hits behind other text: the places of the matches that pass the test. -/
theorem spansFrom_onlyHits (before : Text) (hits : List (Text × Text)) :
    spansFrom before.length (onlyHits p tail hits).hits =
      (spansFrom before.length hits).filter fun span =>
        p (span.slice (before ++ text ⟨hits, tail⟩)) := by
  -- the text in front grows with each match, so that places count from the beginning of the whole
  induction hits generalizing before with
  | nil => rfl
  | cons hit hits ih =>
    obtain ⟨gap, found⟩ := hit
    let first : Span :=
      ⟨before.length + gap.length, before.length + gap.length + found.length⟩
    have hslice : first.slice (before ++ text ⟨(gap, found) :: hits, tail⟩) = found :=
      slice_first tail before gap found hits
    have hrest : spansFrom (before.length + gap.length + found.length)
          (onlyHits p tail hits).hits =
        (spansFrom (before.length + gap.length + found.length) hits).filter fun span =>
          p (span.slice (before ++ text ⟨(gap, found) :: hits, tail⟩)) := by
      have hbehind := ih (before ++ gap ++ found)
      simpa [text_cons, Nat.add_assoc] using hbehind
    have hspans : spansFrom before.length ((gap, found) :: hits) =
        first :: spansFrom (before.length + gap.length + found.length) hits := rfl
    rw [hspans]
    by_cases h : p found
    · rw [List.filter_cons_of_pos (by rwa [hslice]), ← hrest, onlyHits_of_pass tail h]
      rfl
    · rw [List.filter_cons_of_neg (by rwa [hslice]), ← hrest, onlyHits_of_fail tail h,
        spansFrom_consText, List.length_append, Nat.add_assoc]

/-- A match that is left is where it was found. -/
theorem spans_only (f : Findings) :
    (f.only p).spans = f.spans.filter fun span => p (span.slice f.text) :=
  spansFrom_onlyHits p f.tail [] f.hits

end Findings
end Regex

namespace Scrubber

open Regex (Findings Span)

variable {marker : Text}

/-! ## Segments -/

/-- The matches that give way are replaced, and all other text is copied. -/
theorem target_findingEdits (marker : Text) (f : Findings) :
    Edit.target (findingEdits marker f) = (f.only (replaces marker)).rewritten marker := by
  obtain ⟨hits, tail⟩ := f
  unfold Findings.only
  induction hits with
  | nil => simp [findingEdits, Findings.onlyHits, Findings.rewritten]
  | cons hit hits ih =>
    obtain ⟨gap, found⟩ := hit
    rw [findingEdits_cons, Edit.target_cons, Edit.target_cons, ih, matchEdit_eq]
    by_cases h : replaces marker found
    · rw [Findings.onlyHits_of_pass tail h]
      simp [h, Findings.consHit, Findings.rewritten]
    · -- a match that is passed over is copied with the gap in front of it
      rw [Findings.onlyHits_of_fail tail h]
      simp [h]

theorem symbols_findingEdits_eq_founds (marker : Text) (f : Findings) :
    Edit.symbols (findingEdits marker f) = (f.only (replaces marker)).founds :=
  (symbols_findingEdits marker f).trans (Findings.founds_only (replaces marker) f).symm

/-! ## Arguments -/

/--
What becomes of arguments under a pattern.  Each segment is cut into gaps and matches in turn, and
the matches are exactly those of the search that are neither empty nor the marker, at the places
where the search has them.  Written is the marker in the place of each match, and the gaps and the
pairs between the segments as they were.  Counted is each match, and there is no record if there is
none in any segment.
-/
theorem run_of_pattern (settings : ScrubSettings) {rule : PatternRule} {program : Regex.Program}
    {s : Scrubber} (hpattern : settings.pattern? = some rule)
    (hprogram : rule.compile = .ok program) (hs : ofSettings settings = .ok s)
    (arguments : Text) :
    ∃ cuts : List Findings,
      cuts.map Findings.text = settings.convention.segments arguments ∧
      (∀ cut ∈ cuts,
        Span.Ordered 0 (program.findAll cut.text).spans cut.text.length ∧
          cut.spans = ((program.findAll cut.text).spans.filter fun span =>
            span.slice cut.text ≠ [] ∧ span.slice cut.text ≠ settings.marker) ∧
          cut.founds = cut.spans.map fun span => span.slice cut.text) ∧
      (s.run arguments).text = Text.joinWith settings.convention.pair
        (cuts.map fun cut => cut.rewritten settings.marker) ∧
      (∀ t, (s.run arguments).countOf t = (cuts.flatMap Findings.founds).count t) ∧
      ((s.run arguments).record? = none ↔ ∀ cut ∈ cuts, cut.founds = []) := by
  obtain ⟨hconvention, hmarker, hfound⟩ := eq_of_ofSettings_of_pattern hpattern hprogram hs
  rw [← hconvention, ← hmarker]
  -- a cut is a segment with those of its matches that the scrubber replaces
  let cut : Text → Findings := fun segment =>
    (program.findAll segment).only (replaces s.marker)
  have htext : ∀ segment, (cut segment).text = segment := by
    intro segment
    rw [Findings.text_only, Regex.Program.text_findAll]
  -- the pairs between the cuts are kept, so every symbol is found in a cut
  have hsymbols : Edit.symbols (s.edits arguments) =
      ((s.convention.segments arguments).map cut).flatMap Findings.founds := by
    rw [edits, Edit.symbols_intercalate, List.map_map, List.flatMap_map, List.flatMap]
    refine congrArg List.flatten (List.map_congr_left fun segment _ => ?_)
    rw [Function.comp_apply, segmentEdits_of_pattern hfound, symbols_findingEdits_eq_founds]
  refine ⟨(s.convention.segments arguments).map cut, ?_, ?_, ?_, ?_, ?_⟩
  · have hid : Findings.text ∘ cut = id := funext htext
    rw [List.map_map, hid, List.map_id]
  · intro found hcut
    obtain ⟨segment, -, rfl⟩ := List.mem_map.1 hcut
    have hordered := (program.findAll segment).ordered_spans
    have hspans := Findings.spans_only (replaces s.marker) (program.findAll segment)
    rw [Regex.Program.text_findAll] at hordered hspans
    have hfounds := (cut segment).map_slice_spans
    rw [htext segment] at hfounds ⊢
    exact ⟨hordered, hspans, hfounds.symm⟩
  · have htarget : (s.run arguments).text = Edit.target (s.edits arguments) := rfl
    rw [htarget, edits, Edit.target_intercalate, List.map_map, List.map_map]
    refine congrArg (Text.joinWith _) (List.map_congr_left fun segment _ => ?_)
    rw [Function.comp_apply, segmentEdits_of_pattern hfound, target_findingEdits]
    rfl
  · intro t
    rw [run, Outcome.countOf_ofEdits, hsymbols]
  · rw [run, Outcome.ofEdits, Record.ofSymbols?_eq_none_iff, hsymbols, List.flatMap_eq_nil_iff]

/-- Two matches give way, and one that is the marker already is copied with the text behind it. -/
theorem run_of_pattern_marked :
    ∃ (program : Regex.Program) (s : Scrubber) (cuts : List Findings),
      PatternRule.compile { pattern := ['x', '+', '|', '_'] } = .ok program ∧
      ofSettings ⟨.backtick, ['_'], some { pattern := ['x', '+', '|', '_'] }⟩ = .ok s ∧
      cuts.map Findings.text = [['x', 'x', '_', 'a'], ['x']] ∧
      (s.run ['x', 'x', '_', 'a', '\x60', '\x60', 'x']).text =
        ['_', '_', 'a', '\x60', '\x60', '_'] ∧
      Text.joinWith ['\x60', '\x60'] (cuts.map fun cut => cut.rewritten ['_']) =
        ['_', '_', 'a', '\x60', '\x60', '_'] ∧
      (cuts.flatMap Findings.founds).count ['x', 'x'] = 1 ∧
      (cuts.flatMap Findings.founds).count ['_'] = 0 := by
  obtain ⟨program, s, hprogram, hs, hwritten, hfirst, hmarker⟩ :
      ∃ program s, PatternRule.compile { pattern := ['x', '+', '|', '_'] } = .ok program ∧
        ofSettings ⟨.backtick, ['_'], some { pattern := ['x', '+', '|', '_'] }⟩ = .ok s ∧
        (s.run ['x', 'x', '_', 'a', '\x60', '\x60', 'x']).text =
          ['_', '_', 'a', '\x60', '\x60', '_'] ∧
        (s.run ['x', 'x', '_', 'a', '\x60', '\x60', 'x']).countOf ['x', 'x'] = 1 ∧
        (s.run ['x', 'x', '_', 'a', '\x60', '\x60', 'x']).countOf ['_'] = 0 :=
    ⟨_, _, rfl, rfl, by decide +kernel⟩
  obtain ⟨cuts, htexts, -, htext, hcount, -⟩ := run_of_pattern
    ⟨.backtick, ['_'], some { pattern := ['x', '+', '|', '_'] }⟩ rfl hprogram hs
    ['x', 'x', '_', 'a', '\x60', '\x60', 'x']
  refine ⟨program, s, cuts, hprogram, hs, ?_, hwritten, ?_, ?_, ?_⟩
  · exact htexts.trans (by decide)
  · exact htext.symm.trans hwritten
  · exact (hcount ['x', 'x']).symm.trans hfirst
  · exact (hcount ['_']).symm.trans hmarker

end Scrubber
end ShellGuard
