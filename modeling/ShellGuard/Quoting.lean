import ShellGuard.Edit

/-!
# Quoting — a value between single quotes

Between single quotes the shell takes every character as it is, up to the next quote.  A quote in
the value therefore closes the quotes, stands escaped outside them, and opens them again.

## Main definitions

* `Quoting.edits` — what becomes of each character between the outer quotes.
* `quote` — the quoted form of a value; `quoteValue` is that of a value that may be missing.
-/

namespace ShellGuard

namespace Quoting

/-- What stands for one quote inside quotes: the end, an escaped quote, a new start. -/
def innerQuote : Text :=
  ['\'', '\\', '\'', '\'']

def edit (c : Char) : Edit :=
  if c = '\'' then .replace [c] innerQuote else .keepChar c

def edits (value : Text) : List Edit :=
  value.map edit

/-- Nothing of the value is lost. -/
theorem divide_edits (value : Text) : Edit.Divide (edits value) value := by
  induction value with
  | nil => exact Edit.divide_nil
  | cons c value ih =>
    refine ih.cons_char ?_
    unfold edit
    split <;> rfl

end Quoting

def quote (value : Text) : Outcome :=
  let inner := Outcome.ofEdits (Quoting.edits value)
  ⟨['\''] ++ inner.text ++ ['\''], inner.record?⟩

/-- The quoted form of a value; a missing one takes its place as an empty word. -/
def quoteValue (value : Option Text) : Text :=
  (quote (value.getD [])).text

end ShellGuard
