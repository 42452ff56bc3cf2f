import ShellGuard.Neutralizing
import ShellGuard.Proofs.Shell.Quotes

/-!
# Neutralized — a value that runs no command, whatever quotes it stands in

Neutralizing knows nothing of quotes: those of the value stay where they are, and an added backslash
escapes in one place and stands for itself in another.  Each edit nevertheless writes text that a
scanner passes without meeting anything to act on, and that leaves no backslash open behind it.  It
does not matter then what encloses the next edit.

## Main statements

* `inert_edit` — one character of a value, neutralized, in front of inert text.
* `inert_neutralize` — a neutralized value is inert wherever it stands, with its quotes in place.
-/

namespace ShellGuard.Shell

variable {quotes : Quotes}

/-! ## Edit by edit -/

/-- No text is neutralized to one that begins with a parenthesis, so no dollar sign meets one. -/
theorem head?_target_edits_ne (t : Text) :
    (Edit.target (Neutralizing.edits t)).head? ≠ some '(' := by
  fun_cases Neutralizing.edits t with
  | case1 => simp
  | case2 t => simp
  | case3 t h => simp
  | case4 t => simp
  | case5 t => simp
  | case6 c t =>
    rw [Edit.target_cons, Neutralizing.edit]
    split
    · simp [Edit.escape]
    · next hkeep =>
      rintro hhead
      have hc : c = '(' := by simpa [Edit.keepChar] using hhead
      exact hkeep (.inr (.inr (by rw [hc]; decide)))

/-- A space may stand in front of any inert text. -/
theorem inert_space {t : Text} (ht : ∀ quotes, Inert quotes t) : Inert quotes (' ' :: t) := by
  refine inert_cons (by simp) ?_ (ht _)
  simp [Sighting.IsHazard, Sighting.Separates, Sighting.Substitutes]

/-- A neutralized character may stand in front of inert text. -/
theorem inert_edit {c : Char} {t : Text} (hc : c ≠ '\r' ∧ c ≠ '\n') (hhead : t.head? ≠ some '(')
    (ht : ∀ quotes, Inert quotes t) : Inert quotes ((Neutralizing.edit c).after ++ t) := by
  rw [Neutralizing.edit]
  split
  · exact inert_backslash hc ht
  · next hkeep =>
    rw [not_or, not_or] at hkeep
    obtain ⟨hbackslash, hbacktick, hmeta⟩ := hkeep
    refine inert_cons (fun h => absurd h hbackslash) ?_ (ht _)
    have hseparates : c ∉ [';', '|', '&', '<', '>', '(', ')', '#'] := by
      simpa [isCommandMeta, commandMeta] using hmeta
    rintro (hreturn | hfeed | ⟨-, ⟨-, hmem⟩ | ⟨-, hback | ⟨-, hnext⟩⟩⟩)
    · exact hc.1 hreturn
    · exact hc.2 hfeed
    · exact hseparates hmem
    · exact hbacktick hback
    · exact hhead hnext

/-- Neutralized text is inert wherever it stands. -/
theorem inert_target_edits (value : Text) :
    Inert quotes (Edit.target (Neutralizing.edits value)) := by
  fun_induction Neutralizing.edits value generalizing quotes with
  | case1 => exact inert_nil
  | case2 t ih => exact inert_space fun _ => ih
  | case3 t h ih => exact inert_space fun _ => ih
  | case4 t ih => exact inert_space fun _ => ih
  | case5 t ih =>
    refine inert_backslash (by decide) fun _ => ?_
    exact inert_backslash (by decide) fun _ => ih
  | case6 c t hpair hreturn hfeed hdollar ih =>
    exact inert_edit ⟨hreturn, hfeed⟩ (head?_target_edits_ne t) fun _ => ih

/-! ## The quotes of the value -/

def isQuote (c : Char) : Bool :=
  c = '\'' || c = '"'

/-- An edit leaves a quote where it is, and adds none. -/
theorem filter_isQuote_edit (c : Char) :
    (Neutralizing.edit c).after.filter isQuote = [c].filter isQuote := by
  have hbackslash : isQuote '\\' = false := by decide
  rw [Neutralizing.edit]
  split
  · simp [Edit.escape, hbackslash]
  · simp [Edit.keepChar]

theorem filter_isQuote_target_edits (value : Text) :
    (Edit.target (Neutralizing.edits value)).filter isQuote = value.filter isQuote := by
  fun_induction Neutralizing.edits value with
  | case1 => rfl
  | case2 t ih => simpa [isQuote] using ih
  | case3 t h ih => simpa [isQuote] using ih
  | case4 t ih => simpa [isQuote] using ih
  | case5 t ih => simpa [isQuote] using ih
  | case6 c t hpair hreturn hfeed hdollar ih =>
    rw [Edit.target_cons, List.filter_append, filter_isQuote_edit, ih, ← List.filter_append]
    rfl

/-! ## Neutralized values -/

/--
Wherever a neutralized value stands, a scanner of quotes meets nothing in it that runs, chains or
cuts off a command; and the value's quotes are all there, as they were.
-/
theorem inert_neutralize (value : Text) :
    (∀ quotes, Inert quotes (neutralize value).text) ∧
      (neutralize value).text.filter isQuote = value.filter isQuote :=
  ⟨fun _ => inert_target_edits value, filter_isQuote_target_edits value⟩

/-- A quote that closes what encloses the value brings nothing to life behind it. -/
example : ¬ Inert .single ['\'', ';'] ∧ Inert .single (neutralize ['\'', ';']).text := by
  decide

end ShellGuard.Shell
