import ShellGuard.Edit
import ShellGuard.Shell.Character
import ShellGuard.Shell.Expansion

/-!
# Escaping — a value as one word outside quotes

Every character that means something to the shell takes a backslash; references to variables stay as
they are.

## Main definitions

* `Escaping.edits` — what becomes of each stretch of a value.
* `escape` — the escaped value.
-/

namespace ShellGuard

namespace Escaping

/-- What becomes of a character that starts neither a line break nor a reference to a variable. -/
def edit (c : Char) : Edit :=
  if c = '$' ∨ Shell.isShellSpecial c then .escape c else .keepChar c

/-- What becomes of each stretch of a value: a line break turns into an escaped space. -/
def edits : Text → List Edit
  | [] => []
  | '\r' :: '\n' :: t => .replace ['\r', '\n'] ['\\', ' '] :: edits t
  | '\r' :: t => .replace ['\r'] ['\\', ' '] :: edits t
  | '\n' :: t => .replace ['\n'] ['\\', ' '] :: edits t
  | c :: t =>
    match h : Shell.Expansion.read? (c :: t) with
    | some (expansion, rest) =>
      have : rest.length < t.length + 1 := Shell.Expansion.length_lt_of_read? h
      .keep expansion.text :: edits rest
    | none => edit c :: edits t
  termination_by t => t.length

/-- Nothing of the value is lost. -/
theorem divide_edits (value : Text) : Edit.Divide (edits value) value := by
  fun_induction edits value with
  | case1 => exact Edit.divide_nil
  | case2 t ih => exact ih.cons (List.cons_ne_nil _ _)
  | case3 t _ ih => exact ih.cons (List.cons_ne_nil _ _)
  | case4 t ih => exact ih.cons (List.cons_ne_nil _ _)
  | case5 c t _ _ _ expansion rest h _ ih =>
    rw [Shell.Expansion.eq_of_read? h]
    exact ih.cons trivial
  | case6 c t _ _ _ _ ih =>
    refine ih.cons_char ?_
    unfold edit
    split <;> rfl

end Escaping

/-- The value as one word outside quotes. -/
def escape (value : Text) : Outcome :=
  Outcome.ofEdits (Escaping.edits value)

end ShellGuard
