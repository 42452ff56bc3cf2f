import ShellGuard.Scrubbing.Convention
import Mathlib.Data.List.Chain

/-!
# Stretches — what the text between escape pairs looks like

Pairs are cut out from left to right, so an odd run of escape characters leaves its last one at the
beginning of a stretch.  No stretch therefore holds a pair, and no stretch in front of a pair ends
with an escape character.

## Main definitions

* `Unpaired` — no two escape characters stand side by side.
* `Separated` — the shape of the stretches of a text.

## Main statements

* `separated_segments` — the segments of every text are separated.
* `segments_joinWith` — separated parts are the segments of what they are joined to.
-/

namespace ShellGuard
namespace EscapeConvention

/-- Do no two escape characters stand side by side in `t`? -/
def Unpaired (e : Char) (t : Text) : Prop :=
  t.IsChain fun a b => ¬ (a = e ∧ b = e)

/-- Every part is free of pairs, and none but the last one ends with the escape character. -/
def Separated (e : Char) : List Text → Prop
  | [] => True
  | [last] => Unpaired e last
  | part :: next :: parts =>
    Unpaired e part ∧ part.getLast? ≠ some e ∧ Separated e (next :: parts)

variable {e c : Char}

theorem unpaired_cons {t : Text} (h : ¬ (c = e ∧ t.head? = some e)) (ht : Unpaired e t) :
    Unpaired e (c :: t) := by
  refine List.isChain_cons.2 ⟨?_, ht⟩
  intro d hd hpair
  rcases hpair with ⟨hc, rfl⟩
  exact h ⟨hc, hd⟩

theorem unpaired_of_not_mem {t : Text} (h : e ∉ t) : Unpaired e t := by
  refine List.Pairwise.isChain (List.pairwise_of_forall_mem_list ?_)
  rintro c hc d - ⟨rfl, -⟩
  exact h hc

theorem head?_joinWith_of_ne_nil {sep part : Text} (parts : List Text) (h : part ≠ []) :
    (Text.joinWith sep (part :: parts)).head? = part.head? := by
  obtain ⟨d, t, rfl⟩ := List.exists_cons_of_ne_nil h
  cases parts <;> simp

/-- A character in front keeps the parts separated, unless it makes a pair with the first one. -/
theorem separated_consFirst {parts : List Text} (hne : parts ≠ [])
    (h : ¬ (c = e ∧ (Text.joinWith [e, e] parts).head? = some e)) (hparts : Separated e parts) :
    Separated e (consFirst c parts) := by
  match parts with
  | [] => exact absurd rfl hne
  | [last] =>
    have hlast : ¬ (c = e ∧ last.head? = some e) := by
      simpa using h
    exact unpaired_cons hlast hparts
  | part :: next :: rest =>
    rcases hparts with ⟨hpart, hend, hrest⟩
    cases part with
    | nil =>
      -- an empty part in front of a pair: the character would make a run of three
      have hc : c ≠ e := by
        intro heq
        exact h ⟨heq, by simp⟩
      exact ⟨List.isChain_singleton c, by simpa using hc, hrest⟩
    | cons d t =>
      have hhead : ¬ (c = e ∧ (d :: t).head? = some e) := by
        rwa [head?_joinWith_of_ne_nil _ (List.cons_ne_nil d t)] at h
      refine ⟨unpaired_cons hhead hpart, ?_, hrest⟩
      rwa [List.getLast?_cons_cons]

theorem separated_segments (convention : EscapeConvention) (t : Text) :
    Separated convention.char (convention.segments t) := by
  unfold segments
  fun_induction stretches convention.char t with
  | case1 => exact List.isChain_nil
  | case2 c => exact List.isChain_singleton c
  | case3 c d t h ih =>
    obtain ⟨first, rest, heq⟩ :=
      List.exists_cons_of_ne_nil (stretches_ne_nil convention.char t)
    rw [heq] at ih ⊢
    exact ⟨List.isChain_nil, by simp, ih⟩
  | case4 c d t h ih =>
    -- a pair at the beginning would have been cut out by the case before
    refine separated_consFirst (stretches_ne_nil _ _) ?_ ih
    have hjoin : Text.joinWith [convention.char, convention.char]
        (stretches convention.char (d :: t)) = d :: t := convention.joinWith_segments (d :: t)
    rw [hjoin]
    simpa using h

/-! ## Parts that are joined -/

theorem stretches_of_unpaired {t : Text} (h : Unpaired e t) : stretches e t = [t] := by
  fun_induction stretches e t with
  | case1 => rfl
  | case2 c => rfl
  | case3 c d t hpair ih => exact absurd hpair (List.isChain_cons_cons.1 h).1
  | case4 c d t hpair ih => rw [ih (List.isChain_cons_cons.1 h).2, consFirst]

/-- A part without pairs is cut off at the pair behind it, unless it ends with half of a pair. -/
theorem stretches_append_pair {part : Text} (hpart : Unpaired e part)
    (hend : part.getLast? ≠ some e) (t : Text) :
    stretches e (part ++ e :: e :: t) = part :: stretches e t := by
  induction part with
  | nil => simp [stretches]
  | cons c part ih =>
    cases part with
    | nil =>
      have hc : c ≠ e := by simpa using hend
      simp [stretches, hc, consFirst]
    | cons d part =>
      obtain ⟨hpair, hrest⟩ := List.isChain_cons_cons.1 hpart
      rw [List.getLast?_cons_cons] at hend
      have hcut := ih hrest hend
      rw [List.cons_append] at hcut
      rw [List.cons_append, List.cons_append, stretches, if_neg hpair, hcut, consFirst]

theorem stretches_joinWith {parts : List Text} (hne : parts ≠ []) (h : Separated e parts) :
    stretches e (Text.joinWith [e, e] parts) = parts := by
  match parts with
  | [] => exact absurd rfl hne
  | [last] => simpa using stretches_of_unpaired h
  | part :: next :: rest =>
    obtain ⟨hpart, hend, hrest⟩ := h
    have hjoin : Text.joinWith [e, e] (part :: next :: rest) =
        part ++ e :: e :: Text.joinWith [e, e] (next :: rest) := by
      simp
    rw [hjoin, stretches_append_pair hpart hend,
      stretches_joinWith (List.cons_ne_nil next rest) hrest]

/-- Separated parts are the segments of what they are joined to. -/
theorem segments_joinWith (convention : EscapeConvention) {parts : List Text} (hne : parts ≠ [])
    (h : Separated convention.char parts) :
    convention.segments (Text.joinWith convention.pair parts) = parts :=
  stretches_joinWith hne h

end EscapeConvention
end ShellGuard
