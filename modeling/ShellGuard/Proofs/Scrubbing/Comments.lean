import ShellGuard.Proofs.Scrubbing.Settled

/-!
# Comments — when scrubbed arguments begin no comment

A number sign begins a comment where a word begins.  One that was kept stands behind an escape, and
any other one lies inside a copy of the marker, never at its front.  What is left is a marker that
begins a new word by itself: a space with a number sign behind it.  The check of markers refuses a
number sign in front only, and accepts such a marker.

## Main definitions

* `CommentFree` — no number sign of a text stands unescaped at the beginning of a word.

## Main statements

* `Settled.escaped_or_inside` — a number sign of settled text is escaped, or lies inside a marker
  with a part of the marker in front.
* `commentFree_run_iff` — scrubbed arguments begin no comment, provided that no number sign of the
  marker stands behind a space.
* `run_begins_comment` — an accepted marker that begins a comment.
-/

namespace ShellGuard

/-- Is every number sign escaped, or behind a character that is no space? -/
def CommentFree (e : Char) (t : Text) : Prop :=
  ∀ before behind, t = before ++ '#' :: behind →
    Odd (EscapeConvention.runBefore e before) ∨ ∃ d, before.getLast? = some d ∧ d ≠ ' '

/-- A character inside an occurrence of the marker has a part of the marker in front of it. -/
theorem Marker.Covers.exists_suffix {marker before behind : Text} {c : Char}
    (h : Covers marker (before ++ c :: behind) before.length) :
    ∃ u v, marker = u ++ c :: v ∧ u <:+ before := by
  rcases h with ⟨start, rest, heq, hle, hlt⟩
  have hstart : start <+: before ++ c :: behind := by
    rw [heq, List.append_assoc]
    exact List.prefix_append start _
  obtain ⟨u, rfl⟩ := List.prefix_of_prefix_length_le hstart (List.prefix_append before _) hle
  have hbehind : u ++ c :: behind = marker ++ rest := by
    simpa using heq
  have hlength : (u ++ [c]).length ≤ marker.length := by
    simp only [List.length_append, List.length_singleton] at hlt ⊢
    omega
  have hlead : u ++ [c] <+: marker ++ rest := by
    rw [← hbehind]
    exact ⟨behind, by simp⟩
  obtain ⟨v, rfl⟩ := List.prefix_of_prefix_length_le hlead (List.prefix_append marker rest) hlength
  exact ⟨u, v, by simp, List.suffix_append start u⟩

namespace Scrubber

open EscapeConvention Marker

variable {e : Char} {marker : Text}

/-- A number sign of settled text is escaped, or has a part of the marker in front of it. -/
theorem Settled.escaped_or_inside {before behind : Text}
    (h : Settled e marker false (before ++ '#' :: behind)) (he : e ∉ marker)
    (hmarker : ∀ c ∈ marker, c ≠ '#' → Shell.isAllowed c) :
    Odd (runBefore e before) ∨ ∃ u v, marker = u ++ '#' :: v ∧ u <:+ before := by
  have hi : (before ++ '#' :: behind)[before.length]? = some '#' := by simp
  have hsign : ¬ Shell.isAllowed '#' := by decide
  rcases h.escaped_or_covered he hmarker hi hsign with hescaped | ⟨-, hcovers⟩
  · rw [List.take_left, escapesNext_iff_odd_runBefore] at hescaped
    exact .inl hescaped
  · exact .inr hcovers.exists_suffix

/-- Text that is settled under a safe marker begins no comment, unless the marker begins one. -/
theorem Settled.commentFree (convention : EscapeConvention) {t : Text}
    (h : Settled convention.char marker false t) (hsafe : fault? marker = none)
    (hspace : ¬ [' ', '#'] <:+: marker) : CommentFree convention.char t := by
  rintro before behind rfl
  have hinside := h.escaped_or_inside (not_mem_of_fault?_eq_none hsafe convention)
    fun c hmem hsign => isAllowed_of_fault?_eq_none hsafe hmem hsign
  rcases hinside with hodd | ⟨u, v, hmarker, hsuffix⟩
  · exact .inl hodd
  · refine .inr ?_
    rcases List.eq_nil_or_concat u with rfl | ⟨u, d, rfl⟩
    · -- the marker does not begin with the number sign
      exact absurd (by simp [hmarker]) (head?_ne_of_fault?_eq_none hsafe)
    · obtain ⟨start, rfl⟩ := hsuffix
      refine ⟨d, by simp [← List.append_assoc], ?_⟩
      rintro rfl
      exact hspace ⟨u, v, by simp [hmarker]⟩

/-- A character that may not stay, all by itself, gives way to the marker. -/
theorem text_run_singleton (s : Scrubber) (hpattern : s.pattern? = none) {c : Char}
    (hc : ¬ Shell.isAllowed c) (hmem : c ∉ s.marker) : (s.run [c]).text = s.marker := by
  have hlead : ¬ Leads s.marker [c] := by
    rintro ⟨hne, hprefix⟩
    obtain ⟨d, u, hcons⟩ := List.exists_cons_of_ne_nil hne
    rw [hcons] at hprefix hmem
    have hd : d = c := (List.cons_prefix_cons.1 hprefix).1
    exact hmem (by simp [hd])
  rw [s.run_eq_ofEdits_passEdits hpattern]
  simp [Outcome.ofEdits, passEdits_char hlead, passEdit, hc]

/-- A number sign right behind a space begins a comment, whatever stands around the two. -/
theorem not_commentFree_of_infix {t : Text} (convention : EscapeConvention)
    (h : [' ', '#'] <:+: t) : ¬ CommentFree convention.char t := by
  rcases h with ⟨u, v, rfl⟩
  intro hfree
  have hrun : runBefore convention.char (u ++ [' ']) = 0 := by
    have hspace : ' ' ≠ convention.char := by cases convention <;> decide
    rw [runBefore_concat, if_neg hspace]
  rcases hfree (u ++ [' ']) v (by simp) with hodd | ⟨d, hlast, hd⟩
  · rw [hrun] at hodd
    exact Nat.not_odd_zero hodd
  · have heq : ' ' = d := by simpa using hlast
    exact hd heq.symm

/--
Scrubbed arguments never begin a comment, provided that no number sign of the marker stands behind a
space; with any other marker some arguments do.
-/
theorem commentFree_run_iff (settings : ScrubSettings) {s : Scrubber}
    (hpattern : settings.pattern? = none) (hs : ofSettings settings = .ok s) :
    (∀ arguments, CommentFree settings.convention.char (s.run arguments).text) ↔
      ¬ [' ', '#'] <:+: settings.marker := by
  rcases eq_of_ofSettings hpattern hs with ⟨hconvention, hmarker, hnone⟩
  rw [← hconvention, ← hmarker]
  constructor
  · intro hfree hinfix
    have hunsafe : ¬ isSafe ';' := by decide
    have hmem : ';' ∉ s.marker := fun hmem =>
      hunsafe (isSafe_of_fault?_eq_none s.marker_safe hmem)
    have htext : (s.run [';']).text = s.marker := s.text_run_singleton hnone (by decide) hmem
    have hmarkerFree := hfree [';']
    rw [htext] at hmarkerFree
    exact not_commentFree_of_infix s.convention hinfix hmarkerFree
  · intro hspace arguments
    exact (s.settled_run hnone arguments).commentFree s.convention s.marker_safe hspace

/-- A marker with a number sign in it that no space stands before. -/
theorem commentFree_run_iff_inner_sign :
    ∃ s, ofSettings ⟨.backslash, ['x', ' ', 'y', '#'], none⟩ = .ok s ∧
      ((∀ arguments, CommentFree '\\' (s.run arguments).text) ↔
        ¬ [' ', '#'] <:+: ['x', ' ', 'y', '#']) ∧
      ∀ arguments, CommentFree '\\' (s.run arguments).text := by
  have hiff := commentFree_run_iff ⟨.backslash, ['x', ' ', 'y', '#'], none⟩ rfl rfl
  exact ⟨_, rfl, hiff, hiff.2 (by decide)⟩

/-- A space with a number sign behind it is accepted as a marker, and begins a comment. -/
theorem run_begins_comment :
    ∃ s, ofSettings ⟨.backtick, [' ', '#'], none⟩ = .ok s ∧
      (s.run [';']).text = [' ', '#'] ∧ ¬ CommentFree '\x60' (s.run [';']).text := by
  have htext : ((⟨.backtick, [' ', '#'], none, rfl⟩ : Scrubber).run [';']).text = [' ', '#'] := by
    decide +kernel
  refine ⟨_, rfl, htext, ?_⟩
  rw [htext]
  exact not_commentFree_of_infix .backtick (List.infix_refl _)

end Scrubber

end ShellGuard
