import ShellGuard.Text.Basic

/-!
# Lists — scanned, joined and parted lists

Facts about lists that several parts of the theory use: how far a scan goes, what a joined list
holds, where a list with a last item can be parted and what a search finds in a sorted one.

## Main statements

* `takeWhile_append_of_stop` — a scan ends where the next item fails the test.
* `mem_intercalate` — what a joined list holds.
* `length_le_flatMap` — what is written for each item makes no list shorter.
* `append_singleton_eq_append_cons` — the ways to part a list that ends with a given item.
* `head?_append_ne` — what a joined list does not begin with.
* `find?_eq_some_iff_of_pairwise` — in a list sorted by rank, a search finds the lowest rank.
-/

namespace ShellGuard

theorem takeWhile_append_of_stop {p : Char → Bool} {s rest : Text} (hs : ∀ c ∈ s, p c)
    (hrest : ∀ c ∈ rest.head?, p c = false) : (s ++ rest).takeWhile p = s := by
  rw [List.takeWhile_append_of_pos hs]
  cases rest with
  | nil => simp
  | cons c rest => simp [hrest c rfl]

theorem mem_intercalate {α : Type} {sep : List α} {parts : List (List α)} {x : α}
    (h : x ∈ List.intercalate sep parts) : x ∈ sep ∨ ∃ part ∈ parts, x ∈ part := by
  match parts with
  | [] => simp [List.intercalate] at h
  | [part] => exact .inr ⟨part, by simp, by simpa [List.intercalate] using h⟩
  | part :: next :: rest =>
    rw [List.intercalate_cons_cons, List.append_assoc] at h
    rcases List.mem_append.1 h with hpart | h
    · exact .inr ⟨part, by simp, hpart⟩
    · rcases List.mem_append.1 h with hsep | h
      · exact .inl hsep
      · rcases mem_intercalate h with hsep | ⟨found, hfound, hx⟩
        · exact .inl hsep
        · exact .inr ⟨found, List.mem_cons_of_mem part hfound, hx⟩

/-- A list in which something is written for each item is not shorter. -/
theorem length_le_flatMap {α β : Type} {f : α → List β} (hf : ∀ x, f x ≠ []) (l : List α) :
    l.length ≤ (l.flatMap f).length := by
  induction l with
  | nil => exact Nat.le_refl 0
  | cons x l ih =>
    have hpos := List.length_pos_iff.2 (hf x)
    rw [List.flatMap_cons, List.length_append, List.length_cons]
    omega

/-- A list that ends with `x`, parted at some `y`: at its end, or somewhere before. -/
theorem append_singleton_eq_append_cons {α : Type} {before left right : List α} {x y : α}
    (h : before ++ [x] = left ++ y :: right) :
    (before = left ∧ x = y ∧ right = []) ∨
      ∃ between, right = between ++ [x] ∧ before = left ++ y :: between := by
  rcases List.eq_nil_or_concat right with rfl | ⟨between, last, rfl⟩
  · obtain ⟨hbefore, hlast⟩ := List.append_inj' h rfl
    exact .inl ⟨hbefore, by simpa using hlast, rfl⟩
  · rw [List.concat_eq_append, ← List.cons_append, ← List.append_assoc] at h
    obtain ⟨hbefore, hlast⟩ := List.append_inj' h rfl
    have hx : x = last := by simpa using hlast
    exact .inr ⟨between, by rw [hx, List.concat_eq_append], hbefore⟩

/-- What a joined list begins with is what its first part begins with, or what stands behind. -/
theorem head?_append_ne {α : Type} {s t : List α} {x : α} (hs : s.head? ≠ some x)
    (ht : s = [] → t.head? ≠ some x) : (s ++ t).head? ≠ some x := by
  cases s with
  | nil => exact ht rfl
  | cons y s => exact hs

/-- In a list sorted by rank, a search finds what passes the test and has the lowest rank. -/
theorem find?_eq_some_iff_of_pairwise {α : Type} {rank : α → Nat} {test : α → Bool} {l : List α}
    (h : l.Pairwise fun x y => rank x < rank y) {x : α} :
    l.find? test = some x ↔ x ∈ l ∧ test x ∧ ∀ y ∈ l, rank y < rank x → ¬ test y := by
  induction l with
  | nil => simp
  | cons first l ih =>
    obtain ⟨hfirst, hrest⟩ := List.pairwise_cons.1 h
    by_cases htest : test first
    · rw [List.find?_cons_of_pos htest]
      constructor
      · -- nothing has a lower rank than the first item
        rintro ⟨⟩
        refine ⟨List.mem_cons_self, htest, ?_⟩
        intro y hy hlt
        rcases List.mem_cons.1 hy with rfl | hy
        · exact absurd hlt (Nat.lt_irrefl _)
        · exact absurd hlt (Nat.lt_asymm (hfirst y hy))
      · rintro ⟨hmem, -, hlower⟩
        rcases List.mem_cons.1 hmem with rfl | hmem
        · rfl
        · exact absurd htest (hlower first List.mem_cons_self (hfirst x hmem))
    · rw [List.find?_cons_of_neg htest, ih hrest]
      constructor
      · rintro ⟨hmem, hx, hlower⟩
        refine ⟨List.mem_cons_of_mem first hmem, hx, ?_⟩
        intro y hy
        rcases List.mem_cons.1 hy with rfl | hy
        · exact fun _ => htest
        · exact hlower y hy
      · rintro ⟨hmem, hx, hlower⟩
        have hrest : x ∈ l := by
          rcases List.mem_cons.1 hmem with rfl | hmem
          · exact absurd hx htest
          · exact hmem
        exact ⟨hrest, hx, fun y hy => hlower y (List.mem_cons_of_mem first hy)⟩

end ShellGuard
