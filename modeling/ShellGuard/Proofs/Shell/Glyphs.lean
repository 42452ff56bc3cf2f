import Mathlib.Data.Set.Function
import ShellGuard.Neutralizing
import ShellGuard.Proofs.Shell.ExpansionForms

/-!
# Glyphs — a neutralized value, read back

A reader of backslashes takes a backslash and the character behind it as that character, escaped,
and any other character as it is.  What it reads of a neutralized value is the value itself, with a
space for each line break, and the escaped characters are those that the shell would act on outside
quotes.  So nothing is lost but line breaks, and references to variables are left as they were.

## Main definitions

* `Glyph`, `glyphs` — a character as it is read, and what is read of a text.
* `spaced` — a text with a space for each line break.
* `Commanding` — the characters that neutralizing escapes, given the one behind them.

## Main statements

* `glyphs_target_edits` — what is read of a neutralized value.
* `Neutralizing.edits_append` — where a value can be cut and neutralized part by part.
* `glyphs_neutralize` — place by place, and what follows for values and their references.
-/

namespace ShellGuard
namespace Shell

/-! ## The reader -/

/-- A character as it is read, with a backslash in front of it or without. -/
structure Glyph where
  char : Char
  escaped : Bool
  deriving DecidableEq, Repr

/-- What is read of a text: a backslash goes with the character behind it. -/
def glyphs : Text → List Glyph
  | [] => []
  | '\\' :: c :: t => ⟨c, true⟩ :: glyphs t
  | c :: t => ⟨c, false⟩ :: glyphs t

theorem glyphs_backslash (c : Char) (t : Text) :
    glyphs ('\\' :: c :: t) = ⟨c, true⟩ :: glyphs t := by
  rw [glyphs]

theorem glyphs_cons {c : Char} (hc : c ≠ '\\') (t : Text) :
    glyphs (c :: t) = ⟨c, false⟩ :: glyphs t := by
  rw [glyphs]
  intro d u hpair
  exact absurd hpair hc

/-! ## What should be read of a value -/

/-- The text with a space for each line break; a carriage return and a line feed are one. -/
def spaced : Text → Text
  | [] => []
  | '\r' :: '\n' :: t => ' ' :: spaced t
  | '\r' :: t => ' ' :: spaced t
  | '\n' :: t => ' ' :: spaced t
  | c :: t => c :: spaced t

theorem spaced_cons {c : Char} (hreturn : c ≠ '\r') (hfeed : c ≠ '\n') (t : Text) :
    spaced (c :: t) = c :: spaced t := by
  rw [spaced] <;> simp [hreturn, hfeed]

theorem spaced_eq_self {t : Text} (h : '\r' ∉ t ∧ '\n' ∉ t) : spaced t = t := by
  induction t with
  | nil => rfl
  | cons c t ih =>
    obtain ⟨hreturn, hreturns⟩ := List.ne_and_not_mem_of_not_mem_cons h.1
    obtain ⟨hfeed, hfeeds⟩ := List.ne_and_not_mem_of_not_mem_cons h.2
    rw [spaced_cons hreturn.symm hfeed.symm, ih ⟨hreturns, hfeeds⟩]

/-- A text may be cut in front of anything but a line feed. -/
theorem spaced_append {u : Text} (hu : u.head? ≠ some '\n') (t : Text) :
    spaced (t ++ u) = spaced t ++ spaced u := by
  fun_induction spaced t with
  | case1 => rfl
  | case2 t ih => simpa [spaced] using ih
  | case3 t hpair ih =>
    -- behind the carriage return there is still no line feed
    have hhead : (t ++ u).head? ≠ some '\n' := by
      refine head?_append_ne ?_ fun _ => hu
      intro hhead
      obtain ⟨v, rfl⟩ := List.head?_eq_some_iff.1 hhead
      exact hpair v rfl
    rw [List.cons_append, spaced, ih, List.cons_append]
    intro v heq
    exact hhead (by simp [heq])
  | case4 t ih => simpa [spaced] using ih
  | case5 c t _ hreturn hfeed ih =>
    rw [List.cons_append, spaced_cons hreturn hfeed, ih, List.cons_append]

/-- An opening parenthesis is not made of anything else. -/
theorem head?_spaced_eq_iff (t : Text) :
    (spaced t).head? = some '(' ↔ t.head? = some '(' := by
  fun_cases spaced t <;> simp

/--
Must the character be escaped, given the one behind it?  It is a backslash, or the shell would run,
chain or cut off a command there.
-/
def Commanding (c : Char) (next? : Option Char) : Prop :=
  c ∈ ['\\', '\x60', ';', '|', '&', '<', '>', '(', ')', '#'] ∨ (c = '$' ∧ next? = some '(')

instance (c : Char) (next? : Option Char) : Decidable (Commanding c next?) :=
  inferInstanceAs (Decidable (_ ∨ _))

/-- The characters of a text, escaped where the shell would act on them. -/
def marked : Text → List Glyph
  | [] => []
  | c :: t => ⟨c, Commanding c t.head?⟩ :: marked t

theorem map_char_marked (t : Text) : (marked t).map Glyph.char = t := by
  induction t with
  | nil => rfl
  | cons c t ih => rw [marked, List.map_cons, ih]

/-- A character is marked for what it is and for the one behind it, wherever it stands. -/
theorem getElem?_marked_append (before : Text) (c : Char) (after : Text) :
    (marked (before ++ c :: after))[before.length]? = some ⟨c, Commanding c after.head?⟩ := by
  induction before with
  | nil => rfl
  | cons d before ih => simpa [marked] using ih

/-- The shell acts on no space. -/
theorem escaped_eq_false_of_space {t : Text} {glyph : Glyph} (h : glyph ∈ marked t)
    (hspace : glyph.char = ' ') : glyph.escaped = false := by
  induction t with
  | nil => cases h
  | cons c t ih =>
    rcases List.mem_cons.1 h with rfl | h
    · obtain rfl : c = ' ' := hspace
      simp [Commanding]
    · exact ih h

/-! ## What is read of a neutralized value -/

/-- A neutralized character is read as itself, escaped where the shell would act on it. -/
theorem glyphs_edit {c : Char} {next? : Option Char} (hnext : ¬ (c = '$' ∧ next? = some '('))
    (t : Text) :
    glyphs ((Neutralizing.edit c).after ++ t) = ⟨c, Commanding c next?⟩ :: glyphs t := by
  have hescaped : Commanding c next? ↔ c = '\\' ∨ c = '\x60' ∨ isCommandMeta c := by
    simp [Commanding, hnext, isCommandMeta, commandMeta]
  rw [Neutralizing.edit]
  by_cases h : c = '\\' ∨ c = '\x60' ∨ isCommandMeta c
  · rw [if_pos h, decide_eq_true (hescaped.2 h)]
    exact glyphs_backslash c t
  · have hc : c ≠ '\\' := fun heq => h (.inl heq)
    rw [if_neg h, decide_eq_false fun hcommanding => h (hescaped.1 hcommanding)]
    exact glyphs_cons hc t

/--
A neutralized value is read as its characters, escaped where the shell would act on them.  The
reader is through with the value then, whatever comes behind it.
-/
theorem glyphs_target_edits_append (value behind : Text) :
    glyphs (Edit.target (Neutralizing.edits value) ++ behind) =
      marked (spaced value) ++ glyphs behind := by
  -- each case writes whole glyphs, so the reader stands where the next edit begins to write
  fun_induction Neutralizing.edits value with
  | case1 => rfl
  | case2 t ih => simpa [spaced, marked, Commanding, glyphs_cons] using ih
  | case3 t hpair ih =>
    rw [spaced]
    · simpa [marked, Commanding, glyphs_cons] using ih
    · exact hpair
  | case4 t ih => simpa [spaced, marked, Commanding, glyphs_cons] using ih
  | case5 t ih => simpa [spaced, marked, Commanding, glyphs_backslash] using ih
  | case6 c t _ hreturn hfeed hdollar ih =>
    -- a dollar sign in front of a parenthesis was the case before
    have hnext : ¬ (c = '$' ∧ (spaced t).head? = some '(') := by
      rintro ⟨rfl, hhead⟩
      obtain ⟨u, rfl⟩ := List.head?_eq_some_iff.1 ((head?_spaced_eq_iff t).1 hhead)
      exact hdollar u rfl rfl
    rw [spaced_cons hreturn hfeed, marked, Edit.target_cons, List.append_assoc, glyphs_edit hnext,
      ih, List.cons_append]

theorem glyphs_target_edits (value : Text) :
    glyphs (Edit.target (Neutralizing.edits value)) = marked (spaced value) := by
  simpa [glyphs] using glyphs_target_edits_append value []

end Shell

/-! ## Values that are neutralized part by part -/

namespace Neutralizing

/-- Are the two characters one line break, or one beginning of a substitution? -/
def Paired (c d : Char) : Prop :=
  (c = '\r' ∧ d = '\n') ∨ (c = '$' ∧ d = '(')

theorem edits_cons {c : Char} {t : Text} (hreturn : c ≠ '\r') (hfeed : c ≠ '\n')
    (ht : c = '$' → t.head? ≠ some '(') : edits (c :: t) = edit c :: edits t := by
  rw [edits]
  · intro u hc
    exact absurd hc hreturn
  · exact hreturn
  · exact hfeed
  · intro u hc heq
    exact ht hc (by simp [heq])

/-- A value is neutralized part by part if it is not cut between two characters that are one. -/
theorem edits_append {t u : Text}
    (hcut : ∀ c d, t.getLast? = some c → u.head? = some d → ¬ Paired c d) :
    edits (t ++ u) = edits t ++ edits u := by
  have hrest : ∀ {a : Char} {t : Text},
      (∀ c d, (a :: t).getLast? = some c → u.head? = some d → ¬ Paired c d) →
      ∀ c d, t.getLast? = some c → u.head? = some d → ¬ Paired c d := by
    intro a t hcut c d hc hd
    exact hcut c d (by simp [List.getLast?_cons, hc]) hd
  fun_induction edits t with
  | case1 => rfl
  | case2 t ih => simpa [edits] using ih (hrest (hrest hcut))
  | case3 t hpair ih =>
    -- the line feed would be the first character of `u`, and the cut would part a line break
    have hhead : (t ++ u).head? ≠ some '\n' := by
      apply head?_append_ne
      · intro hhead
        obtain ⟨v, rfl⟩ := List.head?_eq_some_iff.1 hhead
        exact hpair v rfl
      · rintro rfl hhead
        exact hcut '\r' '\n' rfl hhead (.inl ⟨rfl, rfl⟩)
    rw [List.cons_append, edits, ih (hrest hcut), List.cons_append]
    intro v heq
    exact hhead (by simp [heq])
  | case4 t ih => simpa [edits] using ih (hrest hcut)
  | case5 t ih => simpa [edits] using ih (hrest (hrest hcut))
  | case6 c t _ hreturn hfeed hdollar ih =>
    -- so it is with the parenthesis behind a dollar sign
    have hhead : c = '$' → (t ++ u).head? ≠ some '(' := by
      rintro rfl
      apply head?_append_ne
      · intro hhead
        obtain ⟨v, rfl⟩ := List.head?_eq_some_iff.1 hhead
        exact hdollar v rfl rfl
      · rintro rfl hhead
        exact hcut '$' '(' rfl hhead (.inr ⟨rfl, rfl⟩)
    rw [List.cons_append, edits_cons hreturn hfeed hhead, ih (hrest hcut), List.cons_append]

/-- Text without line breaks and without anything to escape stays as it is. -/
theorem target_edits_eq_self {t : Text}
    (h : ∀ c ∈ t, c ∉ ['\r', '\n', '\\', '\x60'] ∧ ¬ Shell.isCommandMeta c) :
    Edit.target (edits t) = t := by
  induction t with
  | nil => rfl
  | cons c t ih =>
    obtain ⟨⟨hc, hmeta⟩, hrest⟩ := List.forall_mem_cons.1 h
    simp only [List.mem_cons, List.not_mem_nil, or_false, not_or] at hc
    obtain ⟨hreturn, hfeed, hbackslash, hbacktick⟩ := hc
    -- a parenthesis would have to be escaped itself
    have hhead : t.head? ≠ some '(' := by
      intro hhead
      exact (hrest '(' (List.mem_of_head? hhead)).2 (by decide)
    have hkeep : edit c = .keepChar c := by
      rw [edit, if_neg]
      simp [hbackslash, hbacktick, hmeta]
    rw [edits_cons hreturn hfeed fun _ => hhead, hkeep, Edit.target_cons, ih hrest]
    rfl

end Neutralizing

namespace Shell

/-! ## References to variables -/

open Expansion

variable {x : Expansion}

/-- Nothing of a reference is a line break, or has to be escaped. -/
theorem plain_of_mem_text (hx : x.IsProper) {c : Char} (hc : c ∈ x.text) :
    c ∉ ['\r', '\n', '\\', '\x60'] ∧ ¬ isCommandMeta c := by
  have hother : ∀ d ∈ ['\r', '\n', '\\', '\x60'] ++ commandMeta,
      d ∉ ['$', '\x7b', '\x7d'] ∧ ¬ isNameChar d := by
    simp [commandMeta, isNameChar]
  have hnot : c ∉ ['\r', '\n', '\\', '\x60'] ++ commandMeta := by
    intro hmem
    exact not_mem_text hx (hother c hmem).1 (hother c hmem).2 hc
  rw [List.mem_append, not_or] at hnot
  exact ⟨hnot.1, by simpa [isCommandMeta] using hnot.2⟩

/-- A reference does not end with a dollar sign. -/
theorem getLast?_text_ne (hx : x.IsProper) : x.text.getLast? ≠ some '$' := by
  have hdollar : ¬ isNameChar '$' := by decide
  cases x with
  | positional digit =>
    intro hlast
    have hdigit : digit = '$' := by simpa [text] using hlast
    have hproper : digit.isDigit := hx
    exact absurd (hdigit ▸ hproper) (by decide)
  | named name =>
    intro hlast
    obtain ⟨c, more, rfl, -, -⟩ := exists_cons_of_isName hx
    have hmem : '$' ∈ c :: more := List.mem_of_getLast? (by simpa [text] using hlast)
    exact hdollar (isNameChar_of_mem hx hmem)
  | braced name =>
    simp [text, List.getLast?_cons]

/-- A reference stays as it is, wherever it stands in a value. -/
theorem target_edits_text_append (hx : x.IsProper) (before after : Text) :
    Edit.target (Neutralizing.edits (before ++ x.text ++ after)) =
      Edit.target (Neutralizing.edits before) ++ x.text ++
        Edit.target (Neutralizing.edits after) := by
  have hafter : ∀ c d, x.text.getLast? = some c → after.head? = some d →
      ¬ Neutralizing.Paired c d := by
    rintro c d hlast - (⟨rfl, -⟩ | ⟨rfl, -⟩)
    · exact (plain_of_mem_text hx (List.mem_of_getLast? hlast)).1 (by decide)
    · exact getLast?_text_ne hx hlast
  have hbefore : ∀ c d, before.getLast? = some c → (x.text ++ after).head? = some d →
      ¬ Neutralizing.Paired c d := by
    rintro c d - hhead hpaired
    have hd : '$' = d := by
      cases x <;> simpa [text] using hhead
    subst hd
    rcases hpaired with ⟨-, heq⟩ | ⟨-, heq⟩
    · exact absurd heq (by decide)
    · exact absurd heq (by decide)
  have hself := Neutralizing.target_edits_eq_self fun c hc => plain_of_mem_text hx hc
  rw [List.append_assoc, Neutralizing.edits_append hbefore, Neutralizing.edits_append hafter,
    Edit.target_append, Edit.target_append, hself, List.append_assoc]

/-- Text without backslashes is read character by character. -/
theorem glyphs_append_of_not_mem {t : Text} (ht : '\\' ∉ t) (u : Text) :
    glyphs (t ++ u) = t.map (⟨·, false⟩) ++ glyphs u := by
  induction t with
  | nil => rfl
  | cons c t ih =>
    obtain ⟨hc, hrest⟩ := List.ne_and_not_mem_of_not_mem_cons ht
    rw [List.cons_append, glyphs_cons hc.symm, ih hrest, List.map_cons, List.cons_append]

/-! ## Neutralized values -/

/--
A neutralized value is read as the value with a space for each line break, and exactly the
characters that the shell would act on are read as escaped.  So values without line breaks are told
apart, and every reference to a variable is there, character by character, and none of it escaped.
-/
theorem glyphs_neutralize :
    (∀ value,
      (glyphs (neutralize value).text).map Glyph.char = spaced value ∧
      (∀ before c after, value = before ++ c :: after → c ≠ '\r' → c ≠ '\n' →
        (glyphs (neutralize value).text)[(spaced before).length]? =
          some ⟨c, Commanding c after.head?⟩) ∧
      ∀ glyph ∈ glyphs (neutralize value).text, glyph.char = ' ' → glyph.escaped = false) ∧
    Set.InjOn (fun value => (neutralize value).text) {value | '\r' ∉ value ∧ '\n' ∉ value} ∧
    ∀ before (x : Expansion) after, x.IsProper →
      (neutralize (before ++ x.text ++ after)).text =
          (neutralize before).text ++ x.text ++ (neutralize after).text ∧
        glyphs (neutralize (before ++ x.text ++ after)).text =
          glyphs (neutralize before).text ++ x.text.map (⟨·, false⟩) ++
            glyphs (neutralize after).text := by
  have hread : ∀ value, glyphs (neutralize value).text = marked (spaced value) :=
    glyphs_target_edits
  have hchars : ∀ value, (glyphs (neutralize value).text).map Glyph.char = spaced value := by
    intro value
    rw [hread, map_char_marked]
  refine ⟨fun value => ⟨hchars value, ?_, ?_⟩, ?_, ?_⟩
  -- the character that is no part of a line break can be cut off in front
  · rintro before c after rfl hreturn hfeed
    have hnext : Commanding c (spaced after).head? ↔ Commanding c after.head? := by
      rw [Commanding, Commanding, head?_spaced_eq_iff]
    have hcut : spaced (before ++ c :: after) = spaced before ++ c :: spaced after := by
      rw [spaced_append (by simpa using hfeed), spaced_cons hreturn hfeed]
    rw [hread, hcut, getElem?_marked_append, decide_eq_decide.2 hnext]
  · intro glyph hglyph hspace
    rw [hread] at hglyph
    exact escaped_eq_false_of_space hglyph hspace
  -- without line breaks, what is read is the value
  · intro value hvalue other hother heq
    have htext : (neutralize value).text = (neutralize other).text := heq
    calc
      value = spaced value := (spaced_eq_self hvalue).symm
      _ = spaced other := by rw [← hchars value, ← hchars other, htext]
      _ = other := spaced_eq_self hother
  -- both sides of a reference are neutralized on their own, and the reader takes it as it is
  · intro before x after hx
    have hbackslash : '\\' ∉ x.text := fun hmem => (plain_of_mem_text hx hmem).1 (by decide)
    have htext := target_edits_text_append hx before after
    refine ⟨htext, ?_⟩
    change glyphs (Edit.target (Neutralizing.edits (before ++ x.text ++ after))) = _
    rw [htext, List.append_assoc, glyphs_target_edits_append, glyphs_append_of_not_mem hbackslash,
      hread before, List.append_assoc]
    rfl

/-- A dollar sign in front of a substitution, and a reference between a backslash and a bracket. -/
theorem glyphs_neutralize_nested :
    (glyphs (neutralize ['$', '$', '(', '\r', '\n', ')']).text)[1]? = some ⟨'$', true⟩ ∧
      (∃ glyph ∈ glyphs (neutralize ['$', '$', '(', '\r', '\n', ')']).text,
        glyph.char = ' ' ∧ glyph.escaped = false) ∧
      (neutralize ['\\', '(']).text ≠ (neutralize ['(']).text ∧
      (named ['A']).IsProper ∧
      (neutralize (['\\'] ++ (named ['A']).text ++ ['('])).text =
        ['\\', '\\'] ++ ['$', 'A'] ++ ['\\', '('] := by
  obtain ⟨hplaces, hinjective, hreferences⟩ := glyphs_neutralize
  obtain ⟨-, hmarks, hspaces⟩ := hplaces ['$', '$', '(', '\r', '\n', ')']
  refine ⟨?_, ?_, ?_, ?_⟩
  · exact hmarks ['$'] '$' ['(', '\r', '\n', ')'] rfl (by decide) (by decide)
  · have hspace : ⟨' ', false⟩ ∈ glyphs (neutralize ['$', '$', '(', '\r', '\n', ')']).text := by
      decide
    exact ⟨_, hspace, rfl, hspaces _ hspace rfl⟩
  · intro heq
    have hvalues := hinjective (by simp) (by simp) heq
    exact absurd hvalues (by decide)
  · have hproper : (named ['A']).IsProper := by
      change isName ['A'] = true
      decide
    exact ⟨hproper, (hreferences ['\\'] (named ['A']) ['('] hproper).1⟩

end Shell
end ShellGuard
