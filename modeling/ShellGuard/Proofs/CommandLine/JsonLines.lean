import ShellGuard.Proofs.CommandLine.Delivery
import ShellGuard.Proofs.Json.Forms
import ShellGuard.Proofs.Transforms

/-!
# JsonLines — what a command shows as JSON is one line that says it all

With JSON asked for, a command shows its result and its record as one document.  The document holds
no control character, so it is one line; it is read back as the result that was shown with the
record of the transform, since no record of a transform counts more symbols than its value has
characters.

## Main statements

* `Transform.fits_run` — the counts of a transform fit, if the value's length does.
* `Jsonable.readsBack_and_run_json` — every value is read back from its text, and so is what a
  command shows.
-/

namespace ShellGuard

/-- The counts of a transform fit, if the value's length does. -/
theorem Transform.fits_run (transform : Transform) {value : Text}
    (hlength : value.length < Json.countBound) (shown : Text) :
    (Outcome.mk shown (transform.run value).record?).Fits := by
  intro r hr
  rw [transform.record?_run value] at hr
  -- no symbol is empty, so there are no more of them than characters
  have hsymbols := (transform.divide_edits value).length_symbols_le
  exact Record.fits_of_ofSymbols? hr (Nat.lt_of_le_of_lt hsymbols hlength)

namespace Jsonable

theorem readsBack_outcome {o : Outcome} (ho : o.Fits) : ReadsBack o :=
  readsBack o.plain_toJson (Outcome.ofJson?_toJson ho)

/--
Every value with a JSON form is read back from its text, which holds no control character; counts
are below 2⁶⁴ there.  What a command shows as JSON is such a text with a line feed behind it, and
is read back as the value that was shown and the record of the transform, for values of fewer than
2⁶⁴ characters.
-/
theorem readsBack_and_run_json :
    ((∀ o : Outcome, o.Fits → ReadsBack o) ∧
      (∀ r : Record, r.Fits → ReadsBack r) ∧
      (∀ kind : TransformKind, ReadsBack kind) ∧
      (∀ convention : EscapeConvention, ReadsBack convention) ∧
      (∀ reach : Reach, ReadsBack reach) ∧
      (∀ enforcement : Enforcement, ReadsBack enforcement) ∧
      (∀ rule : PatternRule, ReadsBack rule) ∧
      (∀ reporting : Reporting, ReadsBack reporting) ∧
      ∀ policy : Policy, ReadsBack policy) ∧
    ∀ (r : Request) (w : World), r.io.json → (r.run w).result = .ok () →
      ∃ policy value transform shown line,
        (r.policy w).result = .ok policy ∧ (r.io.read w).result = .ok value ∧
        Transform.build r.command.kind policy = .ok transform ∧
        (r.output w policy value (transform.run value)).result = .ok shown ∧
        (r.run w).trace.written = (r.io.delivered line).map
          ((r.output w policy value (transform.run value)).trace.output ++ ·) id ∧
        Json.ControlFree line ∧
        (value.length < Json.countBound →
          decode? line = some (Outcome.mk shown (transform.run value).record?)) := by
  refine ⟨⟨fun o => readsBack_outcome, ?_, ?_, ?_, ?_, ?_, ?_, ?_, ?_⟩, ?_⟩
  · exact fun r hr => readsBack r.plain_toJson (Record.ofJson?_toJson hr)
  · exact fun kind => readsBack (Json.plain_ofText kind.name) kind.ofJson?_toJson
  · exact fun convention =>
      readsBack (Json.plain_ofText convention.pair) convention.ofJson?_toJson
  · exact fun reach => readsBack (Json.plain_ofText reach.name) reach.ofJson?_toJson
  · exact fun e => readsBack (Json.plain_ofText e.name) e.ofJson?_toJson
  · exact fun rule => readsBack rule.plain_toJson rule.ofJson?_toJson
  · exact fun reporting => readsBack reporting.plain_toJson reporting.ofJson?_toJson
  · exact fun policy => readsBack policy.plain_toJson policy.ofJson?_toJson
  · intro r w hjson hrun
    obtain ⟨policy, value, transform, shown, ⟨hpolicy, hvalue, hbuild⟩, hshown, hwritten⟩ :=
      Request.exists_prepared_of_run_eq_ok hrun
    have hrender : r.io.render shown (transform.run value).record? =
        encode (Outcome.mk shown (transform.run value).record?) := if_pos hjson
    rw [hrender] at hwritten
    refine ⟨policy, value, transform, shown, _, hpolicy, hvalue, hbuild, hshown, hwritten,
      Json.controlFree_render (Outcome.plain_toJson _), ?_⟩
    exact fun hlength => (readsBack_outcome (transform.fits_run hlength shown)).decode

/-- A system without variables and files, of which nothing can be read. -/
def noWorld : World where
  environment := fun _ => none
  accountHome? := none
  entry := fun _ => ⟨false, .error .notFound, .error .notFound⟩
  input := .error .notFound

def escapeAsJson (value : Text) : Request :=
  ⟨false, false, .escape, { value? := some value, json := true }⟩

/-- The highest count, and a value of which JSON has to escape every character. -/
theorem readsBack_and_run_json_escaped :
    (∃ record : Record, record.total = 0xffffffffffffffff ∧ record.Fits ∧
      ReadsBack (Outcome.mk ['\n', '"'] (some record))) ∧
      (escapeAsJson ['\n', '"']).io.json ∧
      ((escapeAsJson ['\n', '"']).run noWorld).result = .ok () ∧
      ∃ line,
        ((escapeAsJson ['\n', '"']).run noWorld).trace.written = (line ++ ['\n'], []) ∧
        Json.ControlFree line ∧
        decode? line = some (ShellGuard.escape ['\n', '"']) := by
  obtain ⟨⟨houtcome, -⟩, hrun⟩ := readsBack_and_run_json
  have hok : ((escapeAsJson ['\n', '"']).run noWorld).result = .ok () := by decide +kernel
  refine ⟨?_, rfl, hok, ?_⟩
  · have hfits : (Record.mk ⟨[(['\n'], 0xffffffffffffffff)], List.pairwise_singleton _ _⟩
        0xffffffffffffffff).Fits := ⟨by decide, by decide⟩
    refine ⟨_, rfl, hfits, houtcome _ ?_⟩
    rintro r ⟨⟩
    exact hfits
  · obtain ⟨policy, value, transform, shown, line, -, hvalue, hbuild, hshown, hwritten, hfree,
      hdecode⟩ := hrun _ noWorld rfl hok
    obtain rfl : value = ['\n', '"'] := (Except.ok.inj hvalue).symm
    obtain rfl : transform = .escape := (Except.ok.inj hbuild).symm
    obtain rfl : shown = (ShellGuard.escape ['\n', '"']).text := (Except.ok.inj hshown).symm
    exact ⟨line, hwritten, hfree, hdecode (by decide)⟩

end Jsonable

end ShellGuard
