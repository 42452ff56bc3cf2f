import ShellGuard.Unicode.Category

/-!
# CodeRanges — joining ranges keeps their code points

A set is built from ranges in any order: they are sorted by their first code points, and joined
where they overlap or touch.  Neither adds or loses a code point, and the search in the result,
which stops at the first range that begins behind the code point, finds all of them.

## Main definitions

* `CharSet.Covers` — some range of a list holds the code point.

## Main statements

* `CharSet.containsIn_iff` — in sorted ranges the search finds what is covered.
* `CharSet.covers_ofRanges` — joining keeps the code points.
* `CharSet.containsCode_union`, `CharSet.covers_unions` — what is in a union.
-/

namespace ShellGuard
namespace CharSet

def Covers (ranges : List CodeRange) (code : Nat) : Prop :=
  ∃ r ∈ ranges, r.lo ≤ code ∧ code ≤ r.hi

/-- Do the ranges stand in the order of their first code points? -/
abbrev Ordered (ranges : List CodeRange) : Prop :=
  ranges.Pairwise fun r next => r.lo ≤ next.lo

variable {code : Nat} {r : CodeRange} {ranges : List CodeRange}

theorem covers_cons :
    Covers (r :: ranges) code ↔ (r.lo ≤ code ∧ code ≤ r.hi) ∨ Covers ranges code := by
  simp [Covers]

/-- In sorted ranges the search may stop early, and finds what is covered. -/
theorem containsIn_iff (h : Ordered ranges) : containsIn code ranges ↔ Covers ranges code := by
  induction ranges with
  | nil => simp [containsIn, Covers]
  | cons r ranges ih =>
    obtain ⟨hr, hrest⟩ := List.pairwise_cons.1 h
    rw [containsIn, covers_cons]
    split
    · next hlt =>
      -- all ranges behind begin behind the code point as well
      have hnone : ¬ Covers ranges code := by
        rintro ⟨next, hnext, hlo, -⟩
        have hle := hr next hnext
        omega
      simp only [Bool.false_eq_true, hnone, or_false, false_iff]
      omega
    · next hge =>
      rw [Bool.or_eq_true, decide_eq_true_eq, ih hrest]
      have hlo : r.lo ≤ code := Nat.le_of_not_lt hge
      simp [hlo]

theorem forall_mem_absorb {least : Nat} (hr : least ≤ r.lo) (h : ∀ next ∈ ranges, least ≤ next.lo) :
    ∀ joined ∈ absorb r ranges, least ≤ joined.lo := by
  induction ranges generalizing r with
  | nil => simpa [absorb] using hr
  | cons next ranges ih =>
    obtain ⟨hnext, hrest⟩ := List.forall_mem_cons.1 h
    unfold absorb
    split
    · exact ih hr hrest
    · exact List.forall_mem_cons.2 ⟨hr, ih hnext hrest⟩

theorem ordered_absorb (h : Ordered (r :: ranges)) : Ordered (absorb r ranges) := by
  induction ranges generalizing r with
  | nil => exact List.pairwise_singleton _ _
  | cons next ranges ih =>
    obtain ⟨hr, hnext⟩ := List.pairwise_cons.1 h
    obtain ⟨hle, hrest⟩ := List.forall_mem_cons.1 hr
    unfold absorb
    split
    · refine ih (List.pairwise_cons.2 ⟨hrest, hnext.of_cons⟩)
    · refine List.pairwise_cons.2 ⟨?_, ih hnext⟩
      exact forall_mem_absorb hle hrest

/-- Ranges that overlap or touch hold the code points of the range that joins them. -/
theorem covers_absorb (h : Ordered (r :: ranges)) :
    Covers (absorb r ranges) code ↔ Covers (r :: ranges) code := by
  induction ranges generalizing r with
  | nil => rfl
  | cons next ranges ih =>
    obtain ⟨hr, hnext⟩ := List.pairwise_cons.1 h
    obtain ⟨hle, hrest⟩ := List.forall_mem_cons.1 hr
    unfold absorb
    split
    · next htouch =>
      have hjoined : Ordered (⟨r.lo, max r.hi next.hi⟩ :: ranges) :=
        List.pairwise_cons.2 ⟨hrest, hnext.of_cons⟩
      rw [ih hjoined, covers_cons, covers_cons, covers_cons, ← or_assoc]
      -- the joined range holds what is between the two, and nothing is
      refine or_congr_left ?_
      simp only
      omega
    · rw [covers_cons, ih hnext, ← covers_cons]

theorem ordered_coalesce (h : Ordered ranges) : Ordered (coalesce ranges) := by
  cases ranges with
  | nil => exact List.Pairwise.nil
  | cons r ranges => exact ordered_absorb h

theorem covers_coalesce (h : Ordered ranges) :
    Covers (coalesce ranges) code ↔ Covers ranges code := by
  cases ranges with
  | nil => rfl
  | cons r ranges => exact covers_absorb h

theorem ordered_mergeSort (ranges : List CodeRange) :
    Ordered (ranges.mergeSort fun a b => a.lo ≤ b.lo) := by
  have hsorted : (ranges.mergeSort fun a b => a.lo ≤ b.lo).Pairwise
      fun a b => decide (a.lo ≤ b.lo) = true := by
    refine List.pairwise_mergeSort (fun a b c => ?_) (fun a b => ?_) ranges
    · simpa using Nat.le_trans
    · simpa using Nat.le_total a.lo b.lo
  simpa using hsorted

/-- Sorting and joining keeps the code points. -/
theorem covers_ofRanges (ranges : List CodeRange) :
    Covers (ofRanges ranges).ranges code ↔ Covers ranges code := by
  unfold ofRanges
  rw [covers_coalesce (ordered_mergeSort ranges)]
  simp [Covers, List.mem_mergeSort]

/-- The code points of a set that was built from ranges are theirs. -/
theorem containsCode_ofRanges (ranges : List CodeRange) :
    (ofRanges ranges).containsCode code ↔ Covers ranges code := by
  rw [← covers_ofRanges]
  exact containsIn_iff (ordered_coalesce (ordered_mergeSort ranges))

theorem containsCode_union (s t : CharSet) :
    (s.union t).containsCode code ↔ Covers s.ranges code ∨ Covers t.ranges code := by
  rw [union, containsCode_ofRanges]
  simp [Covers, or_and_right, exists_or]

theorem covers_unions (sets : List CharSet) :
    Covers (unions sets).ranges code ↔ ∃ s ∈ sets, Covers s.ranges code := by
  rw [unions, covers_ofRanges]
  simp only [Covers, List.mem_flatMap]
  constructor
  · rintro ⟨r, ⟨s, hs, hr⟩, hcode⟩
    exact ⟨s, hs, r, hr, hcode⟩
  · rintro ⟨s, hs, r, hr, hcode⟩
    exact ⟨r, ⟨s, hs, hr⟩, hcode⟩

end CharSet
end ShellGuard
