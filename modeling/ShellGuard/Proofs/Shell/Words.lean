import ShellGuard.Text.Basic

/-!
# Words — how a shell takes a line apart outside quotes

A reader of command lines that knows nothing of how they are written.  Blanks separate words, a
backslash makes the next character literal, and a dollar sign must start a reference to a variable.
Whatever else the shell would act on makes the line unreadable.

## Main definitions

* `isReference` — what may stand behind a dollar sign.
* `longestLead?` — the longest beginning of a text that passes a test.
* `Token`, `lex?` — what the shell sees in a line, or nothing for an unreadable one.
* `words?` — the words of a line.
* `parts` — a value taken apart by itself, as one word should read.

## Main statements

* `longestLead?_eq_some` and `longestLead?_eq_none` — a longest beginning passes, no longer one
  does, and there is one if any beginning passes.
-/

namespace ShellGuard.Shell

/-! ## References to variables -/

/-- Is the text a name: letters, digits and underscores, and no digit in front? -/
def isVariable : Text → Bool
  | [] => false
  | c :: t => (c.isAlpha || c = '_') && t.all fun d => d.isAlphanum || d = '_'

/-- May the text stand behind a dollar sign: a name, one digit, or a name in braces? -/
def isReference (form : Text) : Bool :=
  isVariable form || (form.length = 1 && form.all Char.isDigit) ||
    (form.head? = some '\x7b' && form.getLast? = some '\x7d' && isVariable form.tail.dropLast)

def longestLead? (p : Text → Bool) : Text → Option Text
  | [] => if p [] then some [] else none
  | c :: t =>
    match longestLead? (fun u => p (c :: u)) t with
    | some u => some (c :: u)
    | none => if p [] then some [] else none

/-! ## Lines -/

/-- What a shell sees in a line outside quotes. -/
inductive Token
  /-- A blank that ends a word. -/
  | blank
  /-- A character that stands for itself. -/
  | literal (c : Char)
  /-- A dollar sign with a reference behind it. -/
  | expansion (form : Text)
  deriving DecidableEq, Repr

/-- What must not stand in a line without a backslash. -/
def unreadable : Text :=
  ['$', '\'', '"', '\x60', ';', '|', '&', '<', '>', '(', ')', '#', '!', '*', '?', '[', ']',
    '\x7b', '\x7d', '~', '\r', '\n', '\\']

def lex? : Text → Option (List Token)
  | [] => some []
  | '\\' :: c :: t => (lex? t).map (.literal c :: ·)
  | '$' :: t =>
    match longestLead? isReference t with
    | some form => (lex? (t.drop form.length)).map (.expansion form :: ·)
    | none => none
  | c :: t =>
    if c = ' ' ∨ c = '\t' then (lex? t).map (.blank :: ·)
    else if c ∈ unreadable then none
    else (lex? t).map (.literal c :: ·)
  termination_by t => t.length
  decreasing_by
    all_goals simp only [List.length_drop, List.length_cons]
    all_goals omega

/-- The words of a line: what stands between blanks. -/
def words? (line : Text) : Option (List (List Token)) :=
  (lex? line).map fun tokens => (tokens.splitOn .blank).filter (· ≠ [])

/--
A value taken apart by itself: its references, and every other character as a literal.  A line break
of one or two characters is one space.
-/
def parts : Text → List Token
  | [] => []
  | '\r' :: '\n' :: t => .literal ' ' :: parts t
  | '\r' :: t => .literal ' ' :: parts t
  | '\n' :: t => .literal ' ' :: parts t
  | '$' :: t =>
    match longestLead? isReference t with
    | some form => .expansion form :: parts (t.drop form.length)
    | none => .literal '$' :: parts t
  | c :: t => .literal c :: parts t
  termination_by t => t.length
  decreasing_by
    all_goals simp only [List.length_drop, List.length_cons]
    all_goals omega

/-! ## The longest beginning -/

section LongestLead

variable {p : Text → Bool} {t : Text}

/-- There is a longest beginning as soon as any beginning passes. -/
theorem longestLead?_eq_none (h : longestLead? p t = none) {v : Text} (hv : v <+: t) :
    p v = false := by
  induction t generalizing p v with
  | nil =>
    rw [List.prefix_nil.1 hv]
    simpa [longestLead?] using h
  | cons c t ih =>
    unfold longestLead? at h
    split at h
    · cases h
    · next hnone =>
      have hnil : p [] = false := by simpa using h
      cases v with
      | nil => exact hnil
      | cons d v =>
        rcases List.cons_prefix_cons.1 hv with ⟨rfl, hrest⟩
        exact ih hnone hrest

/-- The longest beginning passes, and no longer one does. -/
theorem longestLead?_eq_some {u : Text} (h : longestLead? p t = some u) :
    p u ∧ u <+: t ∧ ∀ v, v <+: t → p v → v.length ≤ u.length := by
  induction t generalizing p u with
  | nil =>
    have hu : p [] = true ∧ [] = u := by simpa [longestLead?] using h
    rcases hu with ⟨hp, rfl⟩
    refine ⟨hp, List.prefix_refl [], ?_⟩
    intro v hv _
    exact hv.length_le
  | cons c t ih =>
    unfold longestLead? at h
    split at h
    · next u' hsome =>
      cases h
      rcases ih hsome with ⟨hp, hprefix, hmax⟩
      refine ⟨hp, List.cons_prefix_cons.2 ⟨rfl, hprefix⟩, ?_⟩
      intro v hv hpv
      cases v with
      | nil => exact Nat.zero_le _
      | cons d v =>
        rcases List.cons_prefix_cons.1 hv with ⟨rfl, hrest⟩
        have hle := hmax v hrest hpv
        simpa using hle
    · next hnone =>
      have hu : p [] = true ∧ [] = u := by simpa using h
      rcases hu with ⟨hp, rfl⟩
      refine ⟨hp, List.nil_prefix, ?_⟩
      -- a longer one would begin with `c`, and no such beginning passes
      intro v hv hpv
      cases v with
      | nil => exact Nat.le_refl _
      | cons d v =>
        rcases List.cons_prefix_cons.1 hv with ⟨rfl, hrest⟩
        have hfalse := longestLead?_eq_none hnone hrest
        rw [hpv] at hfalse
        cases hfalse

end LongestLead

end ShellGuard.Shell
