import ShellGuard.Proofs.Counting
import ShellGuard.Proofs.Lists
import ShellGuard.Scrubbing.Scrubber

/-!
# Edits — what holds of every edit of the arguments

The edits of the arguments are those of their segments and the pairs that stay between them; those
of a segment under a pattern are the texts that stay and what becomes of the matches.  What holds
of texts that stay and of each segment or match therefore holds of all edits.

## Main statements

* `forall_mem_findingEdits` — what holds of every edit of a segment with its matches.
* `forall_mem_edits` — what holds of every edit of the arguments.
* `symbols_findingEdits` — the matches that give way are those that `replaces` says.
* `divide_edits` — the edits make up the arguments, and replace no empty symbol.
-/

namespace ShellGuard
namespace Scrubber

variable {motive : Edit → Prop} {marker : Text}

theorem forall_mem_findingEdits {f : Regex.Findings} (hkeep : ∀ text, motive (.keep text))
    (hmatch : ∀ hit ∈ f.hits, motive (matchEdit marker hit.2)) :
    ∀ edit ∈ findingEdits marker f, motive edit := by
  intro edit hedit
  rcases List.mem_append.1 hedit with hhit | htail
  · obtain ⟨hit, hhits, hmem⟩ := List.mem_flatMap.1 hhit
    rcases List.mem_cons.1 hmem with rfl | hmem
    · exact hkeep hit.1
    · rw [List.mem_singleton.1 hmem]
      exact hmatch hit hhits
  · rw [List.mem_singleton.1 htail]
    exact hkeep f.tail

theorem forall_mem_edits (s : Scrubber) (arguments : Text) (hkeep : ∀ text, motive (.keep text))
    (hsegment : ∀ segment ∈ s.convention.segments arguments,
      ∀ edit ∈ s.segmentEdits segment, motive edit) :
    ∀ edit ∈ s.edits arguments, motive edit := by
  intro edit hedit
  rcases mem_intercalate hedit with hpair | ⟨edits, hedits, hmem⟩
  · rw [List.mem_singleton.1 hpair]
    exact hkeep s.convention.pair
  · obtain ⟨segment, hmemSegment, rfl⟩ := List.mem_map.1 hedits
    exact hsegment segment hmemSegment edit hmem

theorem segmentEdits_of_pattern {s : Scrubber} {program : Regex.Program}
    (hprogram : s.pattern? = some program) (segment : Text) :
    s.segmentEdits segment = findingEdits s.marker (program.findAll segment) := by
  simp [segmentEdits, hprogram]

/-! ## Symbols -/

/-- Does a match give way to the marker?  It does unless it is empty, or the marker already. -/
def replaces (marker found : Text) : Bool :=
  found ≠ [] ∧ found ≠ marker

theorem matchEdit_eq (marker found : Text) :
    matchEdit marker found =
      if replaces marker found then .replace found marker else .keep found := by
  by_cases h : found = [] ∨ found = marker
  · have hkept : ¬ replaces marker found := by
      simpa [replaces, Decidable.imp_iff_not_or] using h
    rw [matchEdit, if_pos h, if_neg hkept]
  · have hreplaced : replaces marker found := by
      simpa [replaces, not_or] using h
    rw [matchEdit, if_neg h, if_pos hreplaced]

/-- A first match is edited behind the text in front of it. -/
theorem findingEdits_cons (marker : Text) (hit : Text × Text) (hits : List (Text × Text))
    (tail : Text) :
    findingEdits marker ⟨hit :: hits, tail⟩ =
      .keep hit.1 :: matchEdit marker hit.2 :: findingEdits marker ⟨hits, tail⟩ := rfl

/-- The symbols of a segment are the matches that give way, in order. -/
theorem symbols_findingEdits (marker : Text) (f : Regex.Findings) :
    Edit.symbols (findingEdits marker f) = (f.hits.map Prod.snd).filter (replaces marker) := by
  obtain ⟨hits, tail⟩ := f
  induction hits with
  | nil => rfl
  | cons hit hits ih =>
    rw [findingEdits_cons, Edit.symbols_keep_cons, matchEdit_eq, List.map_cons]
    by_cases h : replaces marker hit.2
    · rw [if_pos h, Edit.symbols_replace_cons, ih, List.filter_cons_of_pos h]
    · rw [if_neg h, Edit.symbols_keep_cons, ih, List.filter_cons_of_neg h]

theorem proper_allowEdits (e : Char) (before : Option Char) (segment : Text) :
    ∀ edit ∈ allowEdits e marker before segment, edit.Proper := by
  fun_induction allowEdits e marker before segment with
  | case1 => exact List.forall_mem_nil _
  | case2 before c t rest h _ ih => exact List.forall_mem_cons.2 ⟨trivial, ih⟩
  | case3 before c t h ih =>
    have hedit : (charEdit e marker before c).Proper :=
      Edit.proper_of_before (by simp)
    exact List.forall_mem_cons.2 ⟨hedit, ih⟩

theorem proper_matchEdit (found : Text) : (matchEdit marker found).Proper := by
  unfold matchEdit
  split
  · trivial
  · next hother => exact fun hnil => hother (.inl hnil)

/-- The edits make up the arguments, and replace no empty symbol. -/
theorem divide_edits (s : Scrubber) (arguments : Text) :
    Edit.Divide (s.edits arguments) arguments := by
  refine ⟨s.source_edits arguments, ?_⟩
  refine s.forall_mem_edits arguments (fun _ => trivial) fun segment _ => ?_
  unfold segmentEdits
  split
  · exact forall_mem_findingEdits (fun _ => trivial) fun hit _ => proper_matchEdit hit.2
  · exact proper_allowEdits _ _ _

end Scrubber
end ShellGuard
