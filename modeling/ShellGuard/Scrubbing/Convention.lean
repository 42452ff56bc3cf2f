import ShellGuard.Text.Basic

/-!
# Escape conventions — how a task marks a character that it means literally

A single escape character protects the character behind it; two of them stand for the escape
character itself.

## Main definitions

* `EscapeConvention`, `EscapeConvention.char`, `EscapeConvention.pair` — the two conventions.
* `EscapeConvention.ofName?` — the convention that a configuration names.
* `EscapeConvention.segments` — the stretches of a text between the pairs.
-/

namespace ShellGuard

/-- How a task escapes characters in its arguments. -/
inductive EscapeConvention
  | backtick
  | backslash
  deriving DecidableEq, Repr

namespace EscapeConvention

def char : EscapeConvention → Char
  | backtick => '\x60'
  | backslash => '\\'

/-- The pair that stands for one escape character; a convention is written as its pair. -/
def pair (convention : EscapeConvention) : Text :=
  [convention.char, convention.char]

def word : EscapeConvention → Text
  | backtick => "backtick"
  | backslash => "backslash"

/-- The convention that is named by its pair or in words. -/
def ofName? (name : Text) : Option EscapeConvention :=
  [backtick, backslash].find? fun convention => name = convention.pair ∨ name = convention.word

/-- Puts a character in front of the first stretch. -/
def consFirst (c : Char) : List Text → List Text
  | [] => [[c]]
  | first :: rest => (c :: first) :: rest

/-- The stretches of a text between two equal characters `e` in a row, from left to right. -/
def stretches (e : Char) : Text → List Text
  | [] => [[]]
  | [c] => [[c]]
  | c :: d :: t =>
    if c = e ∧ d = e then [] :: stretches e t else consFirst c (stretches e (d :: t))

def segments (convention : EscapeConvention) (t : Text) : List Text :=
  stretches convention.char t

theorem consFirst_ne_nil (c : Char) (parts : List Text) : consFirst c parts ≠ [] := by
  cases parts <;> simp [consFirst]

theorem stretches_ne_nil (e : Char) (t : Text) : stretches e t ≠ [] := by
  fun_induction stretches e t <;> simp [consFirst_ne_nil]

theorem joinWith_consFirst {sep : Text} {c : Char} {parts : List Text} (h : parts ≠ []) :
    Text.joinWith sep (consFirst c parts) = c :: Text.joinWith sep parts := by
  match parts with
  | [] => exact absurd rfl h
  | [part] => simp [consFirst, Text.joinWith, List.intercalate]
  | part :: next :: rest => simp [consFirst, Text.joinWith, List.intercalate, List.intersperse]

/-- Joined with the pair, the stretches make up the text. -/
theorem joinWith_segments (convention : EscapeConvention) (t : Text) :
    Text.joinWith convention.pair (convention.segments t) = t := by
  unfold segments pair
  generalize convention.char = e
  fun_induction stretches e t with
  | case1 => rfl
  | case2 c => rfl
  | case3 c d t h ih =>
    obtain ⟨rfl, rfl⟩ := h
    obtain ⟨first, rest, heq⟩ := List.exists_cons_of_ne_nil (stretches_ne_nil d t)
    rw [heq] at ih ⊢
    simpa [Text.joinWith, List.intercalate, List.intersperse] using ih
  | case4 c d t h ih => rw [joinWith_consFirst (stretches_ne_nil e (d :: t)), ih]

end EscapeConvention

end ShellGuard
