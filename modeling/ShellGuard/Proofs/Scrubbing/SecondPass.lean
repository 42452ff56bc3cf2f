import ShellGuard.Proofs.Scrubbing.Acceptance
import ShellGuard.Proofs.Scrubbing.Edits
import ShellGuard.Proofs.Scrubbing.Stretches

/-!
# SecondPass — when a pattern finds nothing more in its own output

Under the default rule scrubbed arguments are left alone.  A pattern can match again in what it
wrote: inside a marker, across a marker and the text beside it, or, without a marker, where a
removal brought two texts together.  The second run leaves the output alone exactly if it holds no
such match.  A marker holds no escape character, so it neither makes nor splits a pair: the
segments that the second run searches are those of the first one, each after its replacements.

## Main definitions

* `Writes` — an edit that writes what was there, or the marker.

## Main statements

* `separated_map_target` — segments stay separated when markers are written in them.
* `run_eq_self_iff` — a run changes nothing exactly if every match is empty or the marker.
* `run_run_text_iff` — when a second run changes nothing, and which segments it searches.
* `run_run_text_grows` — arguments that grow again with the second run.
-/

namespace ShellGuard

namespace Scrubber

open EscapeConvention Marker

variable {e : Char} {marker : Text}

/-! ## Edits that write markers -/

/-- Does the edit write what was there, or the marker? -/
def Writes (marker : Text) (edit : Edit) : Prop :=
  edit.after = edit.before ∨ edit.after = marker

theorem writes_keep (text : Text) : Writes marker (.keep text) := .inl rfl

theorem writes_matchEdit (found : Text) : Writes marker (matchEdit marker found) := by
  unfold matchEdit
  split
  · exact .inl rfl
  · exact .inr rfl

section Pairs

variable (hne : marker ≠ []) (he : e ∉ marker) {edits : List Edit}

include hne

theorem source_eq_nil_of_target (hedits : ∀ edit ∈ edits, Writes marker edit)
    (h : Edit.target edits = []) : Edit.source edits = [] := by
  induction edits with
  | nil => rfl
  | cons edit edits ih =>
    obtain ⟨hedit, hrest⟩ := List.forall_mem_cons.1 hedits
    obtain ⟨hafter, htarget⟩ := List.append_eq_nil_iff.1 h
    rcases hedit with hkeep | hmarker
    · rw [Edit.source_cons, ← hkeep, hafter, ih hrest htarget, List.append_nil]
    · exact absurd (hmarker.symm.trans hafter) hne

include he

/-- Where the output begins with an escape character, the input did. -/
theorem head?_source_of_target (hedits : ∀ edit ∈ edits, Writes marker edit)
    (h : (Edit.target edits).head? = some e) : (Edit.source edits).head? = some e := by
  induction edits with
  | nil => exact h
  | cons edit edits ih =>
    obtain ⟨hedit, hrest⟩ := List.forall_mem_cons.1 hedits
    rw [Edit.target_cons, List.head?_append] at h
    rw [Edit.source_cons, List.head?_append]
    rcases hedit with hkeep | hmarker
    · rw [← hkeep]
      cases hhead : edit.after.head? with
      | none =>
        -- an empty stretch leaves the beginning to the edits behind it
        rw [hhead] at h
        exact ih hrest h
      | some c =>
        rw [hhead] at h
        exact h
    · obtain ⟨c, t, hcons⟩ := List.exists_cons_of_ne_nil hne
      rw [hmarker, hcons] at h
      obtain rfl : c = e := by simpa using h
      exact absurd (by simp [hcons]) he

/-- Where the output ends with an escape character, the input did. -/
theorem getLast?_source_of_target (hedits : ∀ edit ∈ edits, Writes marker edit)
    (h : (Edit.target edits).getLast? = some e) : (Edit.source edits).getLast? = some e := by
  induction edits with
  | nil => exact h
  | cons edit edits ih =>
    obtain ⟨hedit, hrest⟩ := List.forall_mem_cons.1 hedits
    rw [Edit.target_cons, List.getLast?_append] at h
    rw [Edit.source_cons, List.getLast?_append]
    cases hlast : (Edit.target edits).getLast? with
    | some c =>
      rw [hlast] at h
      rw [ih hrest (hlast.trans h)]
      rfl
    | none =>
      -- nothing was written behind this edit, and markers are not empty: nothing stood there
      have hnil : Edit.target edits = [] := List.getLast?_eq_none_iff.1 hlast
      rw [hlast, Option.none_or] at h
      rw [source_eq_nil_of_target hne hrest hnil, List.getLast?_nil, Option.none_or]
      rcases hedit with hkeep | hmarker
      · rwa [← hkeep]
      · exact absurd (List.mem_of_getLast? (hmarker ▸ h)) he

/-- Markers make no pair, so text without pairs stays so. -/
theorem unpaired_target (hedits : ∀ edit ∈ edits, Writes marker edit)
    (h : Unpaired e (Edit.source edits)) : Unpaired e (Edit.target edits) := by
  induction edits with
  | nil => exact h
  | cons edit edits ih =>
    obtain ⟨hedit, hrest⟩ := List.forall_mem_cons.1 hedits
    obtain ⟨hbefore, hsource, hpairs⟩ := List.isChain_append.1 h
    have htarget := ih hrest hsource
    rcases hedit with hkeep | hmarker
    · refine List.isChain_append.2 ⟨hkeep ▸ hbefore, htarget, ?_⟩
      rintro c hc d hd ⟨hce, rfl⟩
      -- a pair across the two texts would have been one in the input
      have hhead := head?_source_of_target hne he hrest hd
      exact hpairs c (hkeep ▸ hc) d hhead ⟨hce, rfl⟩
    · refine List.isChain_append.2 ⟨hmarker ▸ unpaired_of_not_mem he, htarget, ?_⟩
      rintro c hc d - ⟨rfl, -⟩
      exact he (List.mem_of_getLast? (hmarker ▸ hc))

/-- Segments stay separated when markers are written in them. -/
theorem separated_map_target {clean : Text → List Edit}
    (hclean : ∀ part, Edit.source (clean part) = part ∧ ∀ edit ∈ clean part, Writes marker edit)
    {parts : List Text} (h : Separated e parts) :
    Separated e (parts.map fun part => Edit.target (clean part)) := by
  have hunpaired : ∀ part, Unpaired e part → Unpaired e (Edit.target (clean part)) := by
    intro part hpart
    refine unpaired_target hne he (hclean part).2 ?_
    rwa [(hclean part).1]
  match parts with
  | [] => trivial
  | [last] => exact hunpaired last h
  | part :: next :: rest =>
    obtain ⟨hpart, hend, hrest⟩ := h
    refine ⟨hunpaired part hpart, ?_, separated_map_target hclean hrest⟩
    intro hlast
    have hsource := getLast?_source_of_target hne he (hclean part).2 hlast
    rw [(hclean part).1] at hsource
    exact hend hsource

end Pairs

/-! ## Runs that change nothing -/

theorem symbols_findingEdits_eq_nil_iff {f : Regex.Findings} :
    Edit.symbols (findingEdits marker f) = [] ↔ ∀ hit ∈ f.hits, hit.2 = [] ∨ hit.2 = marker := by
  rw [symbols_findingEdits, List.filter_eq_nil_iff, List.forall_mem_map]
  refine forall₂_congr fun hit _ => ?_
  simp [replaces, or_iff_not_imp_left]

theorem run_eq_self_iff_symbols {s : Scrubber} {t : Text} :
    s.run t = ⟨t, none⟩ ↔ Edit.symbols (s.edits t) = [] := by
  constructor
  · intro h
    exact Record.ofSymbols?_eq_none_iff.1 (congrArg Outcome.record? h)
  · intro h
    rw [run, Outcome.ofEdits, Edit.target_eq_source h, source_edits, h]
    rfl

/-- A run changes nothing exactly if every match in every segment is empty or the marker. -/
theorem run_eq_self_iff {s : Scrubber} {program : Regex.Program}
    (hprogram : s.pattern? = some program) {t : Text} :
    s.run t = ⟨t, none⟩ ↔ ∀ segment ∈ s.convention.segments t,
      ∀ hit ∈ (program.findAll segment).hits, hit.2 = [] ∨ hit.2 = s.marker := by
  rw [run_eq_self_iff_symbols, edits, Edit.symbols_intercalate, List.flatten_eq_nil_iff,
    List.map_map, List.forall_mem_map]
  refine forall₂_congr fun segment _ => ?_
  rw [Function.comp_apply, segmentEdits_of_pattern hprogram, symbols_findingEdits_eq_nil_iff]

/-- The segments of what was written are those of the arguments, each after its replacements. -/
theorem segments_text_run {s : Scrubber} {program : Regex.Program}
    (hprogram : s.pattern? = some program) (hmarker : s.marker ≠ []) (arguments : Text) :
    s.convention.segments (s.run arguments).text =
      (s.convention.segments arguments).map fun segment =>
        Edit.target (findingEdits s.marker (program.findAll segment)) := by
  have he := not_mem_of_fault?_eq_none s.marker_safe s.convention
  have hclean : ∀ segment, Edit.source (s.segmentEdits segment) = segment ∧
      ∀ edit ∈ s.segmentEdits segment, Writes s.marker edit := by
    intro segment
    refine ⟨s.source_segmentEdits segment, ?_⟩
    rw [segmentEdits_of_pattern hprogram]
    exact forall_mem_findingEdits writes_keep fun hit _ => writes_matchEdit hit.2
  -- replacing makes no pair within a segment, nor across its end
  have hseparated := separated_map_target hmarker he hclean
    (separated_segments s.convention arguments)
  have hne : (s.convention.segments arguments).map
      (fun segment => Edit.target (s.segmentEdits segment)) ≠ [] := by
    rw [Ne, List.map_eq_nil_iff]
    exact stretches_ne_nil s.convention.char arguments
  calc
    s.convention.segments (s.run arguments).text
        = s.convention.segments (Text.joinWith s.convention.pair
            ((s.convention.segments arguments).map fun segment =>
              Edit.target (s.segmentEdits segment))) := by
          rw [run, Outcome.ofEdits, edits, Edit.target_intercalate, List.map_map]
          rfl
    _ = (s.convention.segments arguments).map fun segment =>
          Edit.target (s.segmentEdits segment) := segments_joinWith s.convention hne hseparated
    _ = (s.convention.segments arguments).map fun segment =>
          Edit.target (findingEdits s.marker (program.findAll segment)) := by
        simp only [segmentEdits_of_pattern hprogram]

/--
A second run changes nothing exactly if every match of the pattern in what the first run wrote is
empty or the marker.  With a marker the second run searches the segments of the arguments, each
after its replacements.
-/
theorem run_run_text_iff (settings : ScrubSettings) {rule : PatternRule} {program : Regex.Program}
    {s : Scrubber} (hpattern : settings.pattern? = some rule)
    (hprogram : rule.compile = .ok program) (hs : ofSettings settings = .ok s)
    (arguments : Text) :
    (s.run (s.run arguments).text = ⟨(s.run arguments).text, none⟩ ↔
        ∀ segment ∈ settings.convention.segments (s.run arguments).text,
          ∀ hit ∈ (program.findAll segment).hits, hit.2 = [] ∨ hit.2 = settings.marker) ∧
      (settings.marker ≠ [] →
        settings.convention.segments (s.run arguments).text =
          (settings.convention.segments arguments).map fun segment =>
            Edit.target (findingEdits settings.marker (program.findAll segment))) := by
  obtain ⟨hconvention, hmarker, hfound⟩ := eq_of_ofSettings_of_pattern hpattern hprogram hs
  rw [← hconvention, ← hmarker]
  exact ⟨run_eq_self_iff hfound, fun hne => segments_text_run hfound hne arguments⟩

def only (c : Char) : Regex.Program :=
  ⟨#[.accept, .chars ⟨[⟨c.toNat, c.toNat⟩]⟩ 0], 1⟩

/-- No semicolon is in the marker, and behind a pair none is left either. -/
theorem run_run_text_iff_semicolons :
    ∃ s, PatternRule.compile { pattern := [';'] } = .ok (only ';') ∧
      ofSettings ⟨.backtick, Marker.default, some { pattern := [';'] }⟩ = .ok s ∧
      (s.run ['a', ';', '\x60', '\x60', ';']).text =
        'a' :: Marker.default ++ ['\x60', '\x60'] ++ Marker.default ∧
      s.run (s.run ['a', ';', '\x60', '\x60', ';']).text =
        ⟨(s.run ['a', ';', '\x60', '\x60', ';']).text, none⟩ := by
  have hcompile : PatternRule.compile { pattern := [';'] } = .ok (only ';') := rfl
  have hmatches : ∀ segment ∈ EscapeConvention.backtick.segments
      ((⟨.backtick, Marker.default, some (only ';'), rfl⟩ : Scrubber).run
        ['a', ';', '\x60', '\x60', ';']).text,
      ∀ hit ∈ ((only ';').findAll segment).hits, hit.2 = [] ∨ hit.2 = Marker.default := by
    decide +kernel
  have hiff := run_run_text_iff ⟨.backtick, Marker.default, some { pattern := [';'] }⟩ rfl
    hcompile rfl ['a', ';', '\x60', '\x60', ';']
  exact ⟨_, hcompile, rfl, by decide +kernel, hiff.1.2 hmatches⟩

/-- The marker holds number signs, so a pattern for number signs matches in what it wrote. -/
theorem run_run_text_grows :
    ∃ s, ofSettings ⟨.backtick, Marker.default, some { pattern := ['#'] }⟩ = .ok s ∧
      (s.run ['#']).text = Marker.default ∧
      (s.run (s.run ['#']).text).text =
        ['_'] ++ Marker.default ++ ['r', 'e', 'm', 'o', 'v', 'e', 'd'] ++ Marker.default ++ ['_'] ∧
      (s.run (s.run ['#']).text).record? = Record.ofSymbols? [['#'], ['#']] ∧
      s.run (s.run ['#']).text ≠ ⟨(s.run ['#']).text, none⟩ :=
  ⟨⟨.backtick, Marker.default, some (only '#'), rfl⟩, rfl, by decide +kernel, by decide +kernel,
    by decide +kernel, by decide +kernel⟩

end Scrubber

end ShellGuard
