import ShellGuard.Text.Basic

/-!
# Quotes — what a shell would act on, inside quotes and outside

A scanner of command lines that keeps track of quotes and backslashes and of nothing else.  The same
backslash escapes any character outside quotes, a few between double quotes and none between single
ones, so whether a character is harmless depends on where the scanner stands when it comes to it.

## Main definitions

* `Quotes`, `Quotes.after`, `Quotes.escapes` — what encloses a place, and what it does to quotes and
  backslashes.
* `Sighting`, `sightings` — the characters of a line as the scanner comes to them.
* `Sighting.IsHazard` — the shell would run, chain or cut off commands here.
* `Inert` — the scanner meets no hazard in a text.

## Main statements

* `inert_cons`, `inert_escape` — one step of the scanner.
* `inert_backslash` — a backslash and its character in front of text that is inert anywhere.
-/

namespace ShellGuard.Shell

/-! ## The scanner -/

/-- What encloses a place of a line. -/
inductive Quotes
  | outside
  | single
  | double
  deriving DecidableEq, Repr

namespace Quotes

def after : Quotes → Char → Quotes
  | outside, '\'' => single
  | outside, '"' => double
  | single, '\'' => outside
  | double, '"' => outside
  | quotes, _ => quotes

def escapes : Quotes → Char → Bool
  | outside, _ => true
  | single, _ => false
  | double, c => ['$', '\x60', '"', '\\', '\n'].contains c

@[simp] theorem after_backslash (quotes : Quotes) : quotes.after '\\' = quotes := by
  cases quotes <;> rfl

end Quotes

structure Sighting where
  quotes : Quotes
  escaped : Bool
  char : Char
  /-- The character behind it, if there is one. -/
  next? : Option Char
  deriving DecidableEq, Repr

/-- The characters of a text, given what encloses its first one and whether that one is escaped. -/
def sightings : (quotes : Quotes) → (escaped : Bool) → Text → List Sighting
  | _, _, [] => []
  | quotes, true, c :: t => ⟨quotes, true, c, t.head?⟩ :: sightings quotes false t
  | quotes, false, c :: t =>
    ⟨quotes, false, c, t.head?⟩ ::
      sightings (quotes.after c) (c = '\\' && t.head?.any quotes.escapes) t

namespace Sighting

/-- Would the shell put the output of a command in this place? -/
def Substitutes (s : Sighting) : Prop :=
  s.char = '\x60' ∨ (s.char = '$' ∧ s.next? = some '(')

instance (s : Sighting) : Decidable s.Substitutes :=
  inferInstanceAs (Decidable (_ ∨ _))

/-- Would the shell end a command here, or begin or redirect one, or a comment? -/
def Separates (s : Sighting) : Prop :=
  s.char ∈ [';', '|', '&', '<', '>', '(', ')', '#']

instance (s : Sighting) : Decidable s.Separates :=
  inferInstanceAs (Decidable (_ ∈ _))

/--
Would the shell act on the character?  A line break is never harmless; anything else is between
single quotes and behind a backslash.
-/
def IsHazard (s : Sighting) : Prop :=
  s.char = '\r' ∨ s.char = '\n' ∨
    (s.escaped = false ∧
      ((s.quotes = .outside ∧ s.Separates) ∨ (s.quotes ≠ .single ∧ s.Substitutes)))

instance (s : Sighting) : Decidable s.IsHazard :=
  inferInstanceAs (Decidable (_ ∨ _ ∨ (_ ∧ (_ ∨ _))))

end Sighting

/-- Does the scanner meet no hazard in the text, the first character of which is not escaped? -/
def Inert (quotes : Quotes) (t : Text) : Prop :=
  ∀ s ∈ sightings quotes false t, ¬ s.IsHazard

instance (quotes : Quotes) (t : Text) : Decidable (Inert quotes t) :=
  inferInstanceAs (Decidable (∀ s ∈ _, ¬ Sighting.IsHazard s))

/-! ## What may stand in front of inert text -/

variable {quotes : Quotes} {c : Char} {t : Text}

theorem not_isHazard_backslash (next? : Option Char) :
    ¬ Sighting.IsHazard ⟨quotes, false, '\\', next?⟩ := by
  simp [Sighting.IsHazard, Sighting.Separates, Sighting.Substitutes]

theorem not_isHazard_of_escaped (hsafe : c ≠ '\r' ∧ c ≠ '\n') (next? : Option Char) :
    ¬ Sighting.IsHazard ⟨quotes, true, c, next?⟩ := by
  simp [Sighting.IsHazard, hsafe]

/-- Where a backslash does not escape, what it would escape outside quotes is no hazard. -/
theorem not_isHazard_of_not_escapes (hsafe : c ≠ '\r' ∧ c ≠ '\n')
    (hescapes : quotes.escapes c = false) (next? : Option Char) :
    ¬ Sighting.IsHazard ⟨quotes, false, c, next?⟩ := by
  cases quotes with
  | outside => simp [Quotes.escapes] at hescapes
  | single => simp [Sighting.IsHazard, hsafe]
  | double =>
    have hdollar : c ≠ '$' := by
      rintro rfl
      simp [Quotes.escapes] at hescapes
    have hbacktick : c ≠ '\x60' := by
      rintro rfl
      simp [Quotes.escapes] at hescapes
    simp [Sighting.IsHazard, Sighting.Substitutes, hsafe, hdollar, hbacktick]

theorem inert_nil : Inert quotes [] := by
  intro s hs
  cases hs

/-- A character that is no hazard and escapes nothing may stand in front. -/
theorem inert_cons (hbit : c = '\\' → t.head?.any quotes.escapes = false)
    (hsafe : ¬ Sighting.IsHazard ⟨quotes, false, c, t.head?⟩) (ht : Inert (quotes.after c) t) :
    Inert quotes (c :: t) := by
  have hbit' : (decide (c = '\\') && t.head?.any quotes.escapes) = false := by
    simpa using hbit
  intro s hs
  rw [sightings, hbit'] at hs
  rcases List.mem_cons.1 hs with rfl | hs
  · exact hsafe
  · exact ht s hs

/-- So may a backslash with a character that it escapes. -/
theorem inert_escape (hescapes : quotes.escapes c) (hsafe : c ≠ '\r' ∧ c ≠ '\n')
    (ht : Inert quotes t) : Inert quotes ('\\' :: c :: t) := by
  have hbit : (decide ('\\' = '\\') && (c :: t).head?.any quotes.escapes) = true := by
    simpa using hescapes
  intro s hs
  rw [sightings, hbit, sightings, Quotes.after_backslash] at hs
  rcases List.mem_cons.1 hs with rfl | hs
  · exact not_isHazard_backslash _
  · rcases List.mem_cons.1 hs with rfl | hs
    · exact not_isHazard_of_escaped hsafe _
    · exact ht s hs

/-- Behind a backslash any character may stand in front, but for line breaks. -/
theorem inert_backslash (hsafe : c ≠ '\r' ∧ c ≠ '\n') (ht : ∀ quotes, Inert quotes t) :
    Inert quotes ('\\' :: c :: t) := by
  cases hescapes : quotes.escapes c with
  | true => exact inert_escape hescapes hsafe (ht quotes)
  | false =>
    -- both stand for themselves, and a second backslash could only be between single quotes
    have hbit : c = '\\' → t.head?.any quotes.escapes = false := by
      rintro rfl
      cases quotes with
      | outside => simp [Quotes.escapes] at hescapes
      | single => cases t <;> rfl
      | double => simp [Quotes.escapes] at hescapes
    have hinert : Inert quotes (c :: t) :=
      inert_cons hbit (not_isHazard_of_not_escapes hsafe hescapes _) (ht _)
    refine inert_cons (fun _ => hescapes) (not_isHazard_backslash _) ?_
    rwa [Quotes.after_backslash]

end ShellGuard.Shell
