import ShellGuard.Edit
import ShellGuard.Shell.Character

/-!
# Neutralizing — no command inside a value, but its variables

A list of arguments may refer to variables, so it cannot be quoted.  Neutralizing escapes what runs
or chains commands and leaves `$NAME` and `${NAME}` alone.  Backslashes of the value are escaped in
the same pass, so none of them can meet one that was added.

## Main definitions

* `Neutralizing.edits` — what becomes of each stretch of a value.
* `neutralize` — the neutralized value.
-/

namespace ShellGuard

namespace Neutralizing

/-- What becomes of a character that starts neither a line break nor a substitution. -/
def edit (c : Char) : Edit :=
  if c = '\\' ∨ c = '\x60' ∨ Shell.isCommandMeta c then .escape c else .keepChar c

/-- What becomes of each stretch of a value: a line break turns into one space. -/
def edits : Text → List Edit
  | [] => []
  | '\r' :: '\n' :: t => .replace ['\r', '\n'] [' '] :: edits t
  | '\r' :: t => .replace ['\r'] [' '] :: edits t
  | '\n' :: t => .replace ['\n'] [' '] :: edits t
  | '$' :: '(' :: t => .replace ['$', '('] ['\\', '$', '\\', '('] :: edits t
  | c :: t => edit c :: edits t

/-- Nothing of the value is lost. -/
theorem divide_edits (value : Text) : Edit.Divide (edits value) value := by
  fun_induction edits value with
  | case1 => exact Edit.divide_nil
  | case2 t ih => exact ih.cons (List.cons_ne_nil _ _)
  | case3 t _ ih => exact ih.cons (List.cons_ne_nil _ _)
  | case4 t ih => exact ih.cons (List.cons_ne_nil _ _)
  | case5 t ih => exact ih.cons (List.cons_ne_nil _ _)
  | case6 c t _ _ _ _ ih =>
    refine ih.cons_char ?_
    unfold edit
    split <;> rfl

end Neutralizing

/-- The value without what could run or chain a command. -/
def neutralize (value : Text) : Outcome :=
  Outcome.ofEdits (Neutralizing.edits value)

end ShellGuard
