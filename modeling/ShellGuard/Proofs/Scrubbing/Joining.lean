import ShellGuard.Proofs.Lists
import ShellGuard.Proofs.Scrubbing.Acceptance
import ShellGuard.Proofs.Scrubbing.Edits
import ShellGuard.Proofs.Scrubbing.Protection

/-!
# Joining — when a removed match takes the escape from what stays

A pattern may remove a character that was escaped.  Its escape character stays, and without a marker
it moves up to the text behind the match.  If that text begins with escape characters, two runs
become one, and two odd runs become an even one.  With a marker in between, or behind an even run,
every character that stays is as escaped as it was.

## Main definitions

* `Spares` — an edit that keeps its text, or puts the marker in the place of text without escapes.
* `Joins` — the run in front of a place goes on in front of a removed symbol, where it was odd.

## Main statements

* `spares_edits` — all edits of a pattern spare the escape characters if no match holds one.
* `odd_runBefore_target_iff_of_spares` — what such edits do to the run in front of a place.
* `odd_runBefore_target_iff` — a character that stays keeps its escape, unless two odd runs are
  joined.
* `run_joins_escapes` — arguments that lose an escape.
-/

namespace ShellGuard

namespace Scrubber

open EscapeConvention Marker

variable {e : Char} {marker : Text}

/-! ## Edits that spare the escape characters -/

/-- Does the edit keep its text, or put the marker in the place of text without escapes? -/
def Spares (e : Char) (marker : Text) : Edit → Prop
  | .keep _ => True
  | .replace symbol text => symbol ≠ [] ∧ e ∉ symbol ∧ text = marker

theorem spares_matchEdit {found : Text} (h : e ∉ found) :
    Spares e marker (matchEdit marker found) := by
  unfold matchEdit
  split
  · trivial
  · next hne => exact ⟨fun hnil => hne (.inl hnil), h, rfl⟩

/-- If no match holds an escape character, all edits of the arguments spare them. -/
theorem spares_edits (s : Scrubber) {program : Regex.Program} (hprogram : s.pattern? = some program)
    {arguments : Text}
    (h : ∀ segment ∈ s.convention.segments arguments,
      ∀ hit ∈ (program.findAll segment).hits, s.convention.char ∉ hit.2) :
    ∀ edit ∈ s.edits arguments, Spares s.convention.char s.marker edit := by
  refine s.forall_mem_edits arguments (fun _ => trivial) fun segment hsegment => ?_
  rw [segmentEdits_of_pattern hprogram]
  exact forall_mem_findingEdits (fun _ => trivial) fun hit hhit =>
    spares_matchEdit (h segment hsegment hit hhit)

/-! ## Runs that are joined -/

/--
Do the escape characters in front of a place follow a removed symbol, and did what was written
before the symbol end with an odd run of them?  The place is behind some edits and a kept text.
-/
def Joins (e : Char) (before : List Edit) (kept : Text) : Prop :=
  ∃ left symbol right, before = left ++ .replace symbol [] :: right ∧
    (∀ c ∈ Edit.source right ++ kept, c = e) ∧ Odd (runBefore e (Edit.target left))

theorem not_joins_nil (kept : Text) : ¬ Joins e [] kept := by
  rintro ⟨left, symbol, right, hnil, -⟩
  simp at hnil

/-- What is kept behind the edits counts as kept text. -/
theorem joins_concat_keep {before : List Edit} {text kept : Text} :
    Joins e (before ++ [.keep text]) kept ↔ Joins e before (text ++ kept) := by
  constructor
  · rintro ⟨left, symbol, right, heq, hall, hodd⟩
    rcases append_singleton_eq_append_cons heq with ⟨-, hkeep, -⟩ | ⟨between, rfl, hbefore⟩
    · cases hkeep
    · exact ⟨left, symbol, between, hbefore, by simpa using hall, hodd⟩
  · rintro ⟨left, symbol, right, rfl, hall, hodd⟩
    exact ⟨left, symbol, right ++ [.keep text], by simp, by simpa using hall, hodd⟩

/-- A symbol without escapes that is removed right in front joins what it stands between. -/
theorem joins_concat_replace {before : List Edit} {symbol kept : Text} (hne : symbol ≠ [])
    (hmem : e ∉ symbol) (hkept : ∀ c ∈ kept, c = e) :
    Joins e (before ++ [.replace symbol []]) kept ↔ Odd (runBefore e (Edit.target before)) := by
  constructor
  · rintro ⟨left, other, right, heq, hall, hodd⟩
    rcases append_singleton_eq_append_cons heq with ⟨rfl, -, -⟩ | ⟨between, rfl, -⟩
    · exact hodd
    · -- a symbol removed earlier would have this one in the run behind it
      obtain ⟨c, more, rfl⟩ := List.exists_cons_of_ne_nil hne
      have hc : c = e := hall c (by simp)
      exact absurd (by simp [hc]) hmem
  · intro hodd
    exact ⟨before, symbol, [], rfl, by simpa using hkept, hodd⟩

theorem not_joins_of_exists {before : List Edit} {kept : Text} (h : ∃ c ∈ kept, c ≠ e) :
    ¬ Joins e before kept := by
  rintro ⟨left, symbol, right, -, hall, -⟩
  obtain ⟨c, hc, hne⟩ := h
  exact hne (hall c (List.mem_append_right _ hc))

/-- A place behind an odd run, with a symbol removed somewhere in front of it. -/
theorem odd_runBefore_replace_iff {before : List Edit} {symbol kept : Text} (he : e ∉ marker)
    (hne : symbol ≠ []) (hmem : e ∉ symbol)
    (hodd : Odd (runBefore e (Edit.source before ++ symbol ++ kept))) :
    Odd (runBefore e (Edit.target before ++ marker ++ kept)) ↔
      ¬ (marker = [] ∧ Joins e (before ++ [.replace symbol []]) kept) := by
  by_cases hkept : ∀ c ∈ kept, c = e
  · -- the run reaches back to the symbol, which holds no escape character
    rw [runBefore_append_append hne hmem hkept] at hodd
    rcases eq_or_ne marker [] with rfl | hmarker
    · -- nothing stands between the two runs, and the second one is odd
      calc
        Odd (runBefore e (Edit.target before ++ [] ++ kept))
            ↔ Odd (runBefore e (Edit.target before) + kept.length) := by
              rw [List.append_nil, runBefore_append_of_forall hkept]
        _ ↔ ¬ Odd (runBefore e (Edit.target before)) := by
              rw [Nat.odd_add, ← Nat.not_odd_iff_even]
              simp [hodd]
        _ ↔ ¬ (([] : Text) = [] ∧ Joins e (before ++ [.replace symbol []]) kept) := by
              rw [joins_concat_replace hne hmem hkept]
              simp
    · rw [runBefore_append_append hmarker he hkept]
      exact iff_of_true hodd fun h => hmarker h.1
  · -- the run is all in the kept text
    have hother : ∃ c ∈ kept, c ≠ e := by simpa using hkept
    rw [runBefore_append_of_exists hother] at hodd ⊢
    exact iff_of_true hodd fun h => not_joins_of_exists hother h.2

/--
A place behind an odd run of escape characters is behind an odd run in what is written, unless there
is no marker and two odd runs are joined.
-/
theorem odd_runBefore_target_iff_of_spares {before : List Edit} {kept : Text} (he : e ∉ marker)
    (hbefore : ∀ edit ∈ before, Spares e marker edit)
    (hodd : Odd (runBefore e (Edit.source before ++ kept))) :
    Odd (runBefore e (Edit.target before ++ kept)) ↔ ¬ (marker = [] ∧ Joins e before kept) := by
  -- from the end: kept text is handed on until a removed symbol or the beginning is reached
  induction before using List.reverseRecOn generalizing kept with
  | nil => exact iff_of_true hodd fun h => not_joins_nil kept h.2
  | append_singleton before edit ih =>
    have hspares := hbefore edit (by simp)
    cases edit with
    | keep text =>
      have hrun : Odd (runBefore e (Edit.source before ++ (text ++ kept))) := by
        simpa using hodd
      have hrest := ih (fun x hx => hbefore x (List.mem_append_left _ hx)) hrun
      simpa [joins_concat_keep] using hrest
    | replace symbol text =>
      obtain ⟨hne, hmem, rfl⟩ := hspares
      have hrun : Odd (runBefore e (Edit.source before ++ symbol ++ kept)) := by
        simpa using hodd
      have hreplace := odd_runBefore_replace_iff he hne hmem hrun
      rcases eq_or_ne text [] with rfl | htext
      · simpa using hreplace
      · simpa [htext] using hreplace

/-! ## Arguments -/

/--
If no match of the pattern holds an escape character, a character that stays is escaped where it was
escaped, unless there is no marker and a match was removed between two odd runs in front of it.
-/
theorem odd_runBefore_target_iff (settings : ScrubSettings) {rule : PatternRule}
    {program : Regex.Program} {s : Scrubber} (hpattern : settings.pattern? = some rule)
    (hprogram : rule.compile = .ok program) (hs : ofSettings settings = .ok s) (arguments : Text)
    (hmatches : ∀ segment ∈ settings.convention.segments arguments,
      ∀ hit ∈ (program.findAll segment).hits, settings.convention.char ∉ hit.2)
    {before behind : List Edit} {kept more : Text} {c : Char}
    (hedits : s.edits arguments = before ++ .keep (kept ++ c :: more) :: behind)
    (hodd : Odd (runBefore settings.convention.char (Edit.source before ++ kept))) :
    arguments = Edit.source before ++ kept ++ c :: (more ++ Edit.source behind) ∧
      (s.run arguments).text = Edit.target before ++ kept ++ c :: (more ++ Edit.target behind) ∧
      (Odd (runBefore settings.convention.char (Edit.target before ++ kept)) ↔
        ¬ (settings.marker = [] ∧ Joins settings.convention.char before kept)) := by
  rcases eq_of_ofSettings_of_pattern hpattern hprogram hs with ⟨hconvention, hmarker, hsome⟩
  rw [← hconvention] at hmatches hodd ⊢
  rw [← hmarker]
  refine ⟨?_, ?_, ?_⟩
  · have hsource := s.source_edits arguments
    rw [hedits] at hsource
    simpa using hsource.symm
  · simp [run, Outcome.ofEdits, hedits]
  · have hspares : ∀ edit ∈ before, Spares s.convention.char s.marker edit := by
      intro edit hedit
      refine s.spares_edits hsome hmatches edit ?_
      rw [hedits]
      exact List.mem_append_left _ hedit
    exact odd_runBefore_target_iff_of_spares
      (not_mem_of_fault?_eq_none s.marker_safe s.convention) hspares hodd

def letterX : Regex.Program :=
  ⟨#[.accept, .chars ⟨[⟨120, 120⟩]⟩ 0], 1⟩

/-- The scrubber that takes a letter away and writes nothing for it. -/
def withoutX : Scrubber :=
  ⟨.backslash, [], some letterX, rfl⟩

/-- Behind a pair the removed match was not escaped, and the run of one becomes a run of three. -/
theorem odd_runBefore_target_iff_behind_pair :
    PatternRule.compile { pattern := ['x'] } = .ok letterX ∧
      ofSettings ⟨.backslash, [], some { pattern := ['x'] }⟩ = .ok withoutX ∧
      (∀ segment ∈ EscapeConvention.backslash.segments ['\\', '\\', 'x', '\\', ';'],
        ∀ hit ∈ (letterX.findAll segment).hits, '\\' ∉ hit.2) ∧
      withoutX.edits ['\\', '\\', 'x', '\\', ';'] =
        [.keep [], .keep ['\\', '\\'], .keep [], .replace ['x'] []] ++
          .keep (['\\'] ++ ';' :: []) :: [] ∧
      Odd (runBefore '\\' ['\\', '\\', 'x', '\\']) ∧
      (withoutX.run ['\\', '\\', 'x', '\\', ';']).text = ['\\', '\\', '\\', ';'] ∧
      (Odd (runBefore '\\' ['\\', '\\', '\\']) ↔
        ¬ (([] : Text) = [] ∧ Joins '\\'
          [.keep [], .keep ['\\', '\\'], .keep [], .replace ['x'] []] ['\\'])) := by
  have hmatches : ∀ segment ∈ EscapeConvention.backslash.segments ['\\', '\\', 'x', '\\', ';'],
      ∀ hit ∈ (letterX.findAll segment).hits, '\\' ∉ hit.2 := by
    decide +kernel
  have hedits : withoutX.edits ['\\', '\\', 'x', '\\', ';'] =
      [.keep [], .keep ['\\', '\\'], .keep [], .replace ['x'] []] ++
        .keep (['\\'] ++ ';' :: []) :: [] := by
    decide +kernel
  have hodd : Odd (runBefore '\\' ['\\', '\\', 'x', '\\']) := by decide
  obtain ⟨-, htext, hiff⟩ := odd_runBefore_target_iff
    ⟨.backslash, [], some { pattern := ['x'] }⟩ rfl rfl rfl _ hmatches hedits hodd
  exact ⟨rfl, rfl, hmatches, hedits, hodd, htext, hiff⟩

/-- A match removed between two escape characters makes a pair of them, and bares what is behind. -/
theorem run_joins_escapes :
    PatternRule.compile { pattern := ['x'] } = .ok letterX ∧
      ofSettings ⟨.backslash, [], some { pattern := ['x'] }⟩ = .ok withoutX ∧
      (∀ segment ∈ EscapeConvention.backslash.segments ['\\', 'x', '\\', ';'],
        ∀ hit ∈ (letterX.findAll segment).hits, '\\' ∉ hit.2) ∧
      withoutX.edits ['\\', 'x', '\\', ';'] =
        [.keep ['\\'], .replace ['x'] [], .keep ['\\', ';']] ∧
      Odd (runBefore '\\' ['\\', 'x', '\\']) ∧
      (withoutX.run ['\\', 'x', '\\', ';']).text = ['\\', '\\', ';'] ∧
      ¬ Odd (runBefore '\\' ['\\', '\\']) := by
  refine ⟨rfl, rfl, ?_, ?_, ?_, ?_, ?_⟩
  · decide +kernel
  · decide +kernel
  · decide
  · decide +kernel
  · decide

end Scrubber

end ShellGuard
