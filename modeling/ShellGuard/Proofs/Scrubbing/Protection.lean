import ShellGuard.Scrubbing.Convention
import Mathlib.Algebra.Ring.Parity
import Mathlib.Data.List.Induction

/-!
# Protection — which characters of a text are escaped

Read from the left, an escape character escapes the character behind it unless it is escaped
itself.  Looked at from a single character, that is the length of the run of escape characters in
front of it: the character is escaped if the run is odd.

## Main definitions

* `escapesNext` — the reading from the left, one bit carried through a text.
* `runBefore` — the length of the run of escape characters that a text ends with.

## Main statements

* `escapesNext_iff_odd_runBefore` — the two agree.
* `runBefore_append_of_forall`, `runBefore_append_of_exists` — how far a run reaches back.
* `escapesNext_eq_false_of_not_mem` — text without escape characters escapes nothing.
-/

namespace ShellGuard
namespace EscapeConvention

/-- Is the character behind `t` escaped, when `escaped` says so of the first one of `t`? -/
def escapesNext (e : Char) (escaped : Bool) (t : Text) : Bool :=
  t.foldl (fun escaped c => c = e && !escaped) escaped

/-- The length of the run of escape characters at the end of `t`. -/
def runBefore (e : Char) (t : Text) : Nat :=
  (t.reverse.takeWhile (· = e)).length

variable {e : Char} {escaped : Bool}

@[simp] theorem escapesNext_nil : escapesNext e escaped [] = escaped := rfl

@[simp] theorem escapesNext_cons (c : Char) (t : Text) :
    escapesNext e escaped (c :: t) = escapesNext e (c = e && !escaped) t := rfl

theorem escapesNext_append (s t : Text) :
    escapesNext e escaped (s ++ t) = escapesNext e (escapesNext e escaped s) t :=
  List.foldl_append

theorem escapesNext_concat (t : Text) (c : Char) :
    escapesNext e escaped (t ++ [c]) = (decide (c = e) && !escapesNext e escaped t) := by
  rw [escapesNext_append]
  rfl

theorem escapesNext_eq_false {t : Text} (hne : t ≠ []) (hlast : t.getLast? ≠ some e) :
    escapesNext e escaped t = false := by
  rcases List.eq_nil_or_concat t with rfl | ⟨t, c, rfl⟩
  · exact absurd rfl hne
  · have hc : c ≠ e := by
      intro heq
      exact hlast (by simp [heq])
    simp [escapesNext_concat, hc]

theorem escapesNext_eq_false_of_not_mem {t : Text} (hne : t ≠ []) (hmem : e ∉ t) :
    escapesNext e escaped t = false := by
  refine escapesNext_eq_false hne ?_
  intro hlast
  exact hmem (List.mem_of_getLast? hlast)

theorem runBefore_concat (t : Text) (c : Char) :
    runBefore e (t ++ [c]) = if c = e then runBefore e t + 1 else 0 := by
  by_cases h : c = e <;> simp [runBefore, h]

/-- Escape characters at the end make the run longer. -/
theorem runBefore_append_of_forall {u : Text} (hu : ∀ c ∈ u, c = e) (t : Text) :
    runBefore e (t ++ u) = runBefore e t + u.length := by
  induction u using List.reverseRecOn with
  | nil => simp
  | append_singleton u c ih =>
    have hc : c = e := hu c (by simp)
    have hlength : runBefore e (t ++ u) = runBefore e t + u.length :=
      ih fun d hd => hu d (List.mem_append_left [c] hd)
    rw [← List.append_assoc, runBefore_concat, if_pos hc, hlength, List.length_append,
      List.length_singleton, Nat.add_assoc]

/-- The run does not reach back over another character. -/
theorem runBefore_append_of_exists {u : Text} (hu : ∃ c ∈ u, c ≠ e) (t : Text) :
    runBefore e (t ++ u) = runBefore e u := by
  induction u using List.reverseRecOn with
  | nil => simp at hu
  | append_singleton u c ih =>
    rw [← List.append_assoc, runBefore_concat, runBefore_concat]
    by_cases hc : c = e
    · obtain ⟨d, hd, hne⟩ := hu
      rcases List.mem_append.1 hd with hd | hd
      · rw [ih ⟨d, hd, hne⟩]
      · exact absurd ((List.mem_singleton.1 hd).trans hc) hne
    · rw [if_neg hc, if_neg hc]

/-- Behind text without escape characters the run begins anew. -/
theorem runBefore_append_append {s u : Text} (hne : s ≠ []) (hmem : e ∉ s) (hu : ∀ c ∈ u, c = e)
    (t : Text) : runBefore e (t ++ s ++ u) = u.length := by
  rcases List.eq_nil_or_concat s with rfl | ⟨s, c, rfl⟩
  · exact absurd rfl hne
  · have hc : c ≠ e := by
      rintro rfl
      exact hmem (by simp)
    rw [runBefore_append_of_forall hu, List.concat_eq_append, ← List.append_assoc,
      runBefore_concat, if_neg hc, Nat.zero_add]

/-- A character is escaped if the run of escape characters in front of it is odd. -/
theorem escapesNext_iff_odd_runBefore (t : Text) :
    escapesNext e false t ↔ Odd (runBefore e t) := by
  -- from the end: the last character decides whether the run goes on
  induction t using List.reverseRecOn with
  | nil => simp [runBefore]
  | append_singleton t c ih =>
    rw [escapesNext_concat, runBefore_concat]
    by_cases h : c = e
    · have hodd : ¬ escapesNext e false t ↔ Odd (runBefore e t + 1) := by
        rw [Nat.odd_add_one, ih]
      simpa [h] using hodd
    · simp [h]

end EscapeConvention
end ShellGuard
