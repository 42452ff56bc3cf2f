import ShellGuard.Proofs.Scrubbing.Edits
import ShellGuard.Proofs.Shell.ExpansionForms
import ShellGuard.Transform

/-!
# Transforms — every transform edits the whole value

Each of the four ways to make a value safe is a list of edits that together make up the value, and
each edit that counts replaces at least one character.  The record of a transform is that of the
symbols its edits replace, and scrubbing without a record leaves the arguments as they were.

## Main definitions

* `Transform.edits` — what becomes of each stretch of a value.

## Main statements

* `Neutralizing.forall_mem_edits`, `Escaping.forall_mem_edits` — what holds of every edit of a value.
* `Transform.divide_edits` — the edits make up the value, and replace no empty symbol.
* `Transform.record?_run` — the record is that of the symbols that were replaced.
* `Scrubber.text_of_record?_eq_none` — scrubbed arguments without a record are the arguments.
-/

namespace ShellGuard

/-! ## What holds of every edit -/

theorem Neutralizing.forall_mem_edits {motive : Edit → Prop}
    (hpair : motive (.replace ['\r', '\n'] [' '])) (hreturn : motive (.replace ['\r'] [' ']))
    (hfeed : motive (.replace ['\n'] [' ']))
    (hsubstitution : motive (.replace ['$', '('] ['\\', '$', '\\', '(']))
    (hchar : ∀ c, c ≠ '\r' → c ≠ '\n' → motive (edit c)) (value : Text) :
    ∀ edit ∈ edits value, motive edit := by
  fun_induction edits value with
  | case1 => exact List.forall_mem_nil _
  | case2 t ih => exact List.forall_mem_cons.2 ⟨hpair, ih⟩
  | case3 t _ ih => exact List.forall_mem_cons.2 ⟨hreturn, ih⟩
  | case4 t ih => exact List.forall_mem_cons.2 ⟨hfeed, ih⟩
  | case5 t ih => exact List.forall_mem_cons.2 ⟨hsubstitution, ih⟩
  | case6 c t _ hreturn hfeed _ ih => exact List.forall_mem_cons.2 ⟨hchar c hreturn hfeed, ih⟩

theorem Escaping.forall_mem_edits {motive : Edit → Prop}
    (hpair : motive (.replace ['\r', '\n'] ['\\', ' ']))
    (hreturn : motive (.replace ['\r'] ['\\', ' ']))
    (hfeed : motive (.replace ['\n'] ['\\', ' ']))
    (hreference : ∀ x : Shell.Expansion, x.IsProper → motive (.keep x.text))
    (hchar : ∀ c, c ≠ '\r' → c ≠ '\n' → motive (edit c)) (value : Text) :
    ∀ edit ∈ edits value, motive edit := by
  fun_induction edits value with
  | case1 => exact List.forall_mem_nil _
  | case2 t ih => exact List.forall_mem_cons.2 ⟨hpair, ih⟩
  | case3 t _ ih => exact List.forall_mem_cons.2 ⟨hreturn, ih⟩
  | case4 t ih => exact List.forall_mem_cons.2 ⟨hfeed, ih⟩
  | case5 c t _ _ _ x rest h _ ih =>
    obtain ⟨hproper, -⟩ := Shell.Expansion.isProper_and_endsBefore_of_read? h
    exact List.forall_mem_cons.2 ⟨hreference x hproper, ih⟩
  | case6 c t _ hreturn hfeed _ ih => exact List.forall_mem_cons.2 ⟨hchar c hreturn hfeed, ih⟩

/-! ## The edits of a transform -/

namespace Transform

def edits : Transform → Text → List Edit
  | scrub scrubber, value => scrubber.edits value
  | quote, value => Quoting.edits value
  | neutralize, value => Neutralizing.edits value
  | escape, value => Escaping.edits value

theorem divide_edits (transform : Transform) (value : Text) :
    Edit.Divide (transform.edits value) value := by
  cases transform with
  | scrub scrubber => exact scrubber.divide_edits value
  | quote => exact Quoting.divide_edits value
  | neutralize => exact Neutralizing.divide_edits value
  | escape => exact Escaping.divide_edits value

theorem record?_run (transform : Transform) (value : Text) :
    (transform.run value).record? = Record.ofSymbols? (Edit.symbols (transform.edits value)) := by
  cases transform <;> rfl

end Transform

/-- Scrubbed arguments without a record are the arguments. -/
theorem Scrubber.text_of_record?_eq_none {s : Scrubber} {arguments : Text}
    (h : (s.run arguments).record? = none) : (s.run arguments).text = arguments := by
  have hsymbols := Record.ofSymbols?_eq_none_iff.1 h
  exact (Edit.target_eq_source hsymbols).trans (s.source_edits arguments)

end ShellGuard
