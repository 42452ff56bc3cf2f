import ShellGuard.Proofs.CommandLine.JsonLines
import ShellGuard.Proofs.CommandLine.Publishing
import ShellGuard.Proofs.Reporting.Shielded
import ShellGuard.Proofs.Scrubbing.Settled
import ShellGuard.Proofs.Shell.ExpansionForms

/-!
# Forgery — no value makes a command of its own

The value, the result as JSON and the program's own commands share the standard output.  What
neutralizing and escaping write has every number sign behind a backslash, and what the default rule
writes has every bracket behind an escape character.  JSON keeps both, and so do the symbols of a
record.  So the sign of a command stands on the standard output once for the command that is
published, and nowhere else.

## Main definitions

* `Request.Guards` — the commands whose result is meant to be safe to print.

## Main statements

* `sealed_neutralize`, `sealed_escape` — no number sign is bare in what these two write.
* `Scrubber.sealed_run` — no bracket is bare in what the default rule writes.
* `Request.occurrences_sign_execute` — how often the sign stands on the standard output.
-/

namespace ShellGuard

open Text LoggingCommand

/-! ## Edits -/

/-- Is what the edit writes shielded, and the symbol linked that it counts? -/
structure Edit.Sealed (c : Char) (edit : Edit) : Prop where
  after : Shielded c edit.after
  symbol : ∀ symbol ∈ edit.symbol?, Linked c symbol

namespace Edit

variable {c : Char} {edit : Edit} {edits : List Edit}

theorem sealed_of_not_mem (hbefore : c ∉ edit.before) (hafter : c ∉ edit.after) :
    edit.Sealed c := by
  refine ⟨shielded_of_not_mem hafter, fun symbol hsymbol => ?_⟩
  cases edit with
  | keep text => cases hsymbol
  | replace found text =>
    cases hsymbol
    exact (shielded_of_not_mem hbefore).linked

theorem sealed_escape (hc : c ≠ '\\') (a : Char) : (escape a).Sealed c := by
  have hescaped : Linked c ['\\', a] := (linked_singleton c a).cons_shield (by decide)
  refine ⟨⟨hescaped, fun hhead => hc (Option.some.inj hhead).symm⟩, fun symbol hsymbol => ?_⟩
  cases hsymbol
  exact linked_singleton c a

theorem sealed_keepChar {a : Char} (ha : a ≠ c) : (keepChar a).Sealed c := by
  have hnot : c ∉ [a] := fun hmem => ha (List.mem_singleton.1 hmem).symm
  exact sealed_of_not_mem hnot hnot

/-- An edit that escapes some characters leaves none of those bare. -/
theorem sealed_ite (hc : c ≠ '\\') {p : Prop} [Decidable p] {a : Char} (h : a = c → p) :
    (if p then escape a else keepChar a).Sealed c := by
  split
  · exact sealed_escape hc a
  · next hplain =>
    apply sealed_keepChar
    intro heq
    exact hplain (h heq)

end Edit

theorem Outcome.sealed_of_edits {c : Char} {edits : List Edit}
    (h : ∀ edit ∈ edits, edit.Sealed c) : (ofEdits edits).Sealed c := by
  apply sealed_ofEdits
  · apply shielded_flatten
    intro part hpart
    obtain ⟨edit, hedit, rfl⟩ := List.mem_map.1 hpart
    exact (h edit hedit).after
  · intro symbol hsymbol
    obtain ⟨edit, hedit, hcounted⟩ := List.mem_filterMap.1 hsymbol
    exact (h edit hedit).symbol symbol hcounted

/-! ## Neutralizing and escaping -/

theorem Neutralizing.sealed_edit (a : Char) : (edit a).Sealed '#' := by
  apply Edit.sealed_ite (by decide)
  rintro rfl
  decide

/-- Neutralizing leaves no number sign bare. -/
theorem sealed_neutralize (value : Text) : (neutralize value).Sealed '#' := by
  apply Outcome.sealed_of_edits
  apply Neutralizing.forall_mem_edits
  · exact Edit.sealed_of_not_mem (by decide) (by decide)
  · exact Edit.sealed_of_not_mem (by decide) (by decide)
  · exact Edit.sealed_of_not_mem (by decide) (by decide)
  · exact Edit.sealed_of_not_mem (by decide) (by decide)
  · intro a _ _
    exact Neutralizing.sealed_edit a

theorem Escaping.sealed_edit (a : Char) : (edit a).Sealed '#' := by
  apply Edit.sealed_ite (by decide)
  rintro rfl
  decide

/-- Escaping leaves no number sign bare. -/
theorem sealed_escape (value : Text) : (escape value).Sealed '#' := by
  apply Outcome.sealed_of_edits
  apply Escaping.forall_mem_edits
  · exact Edit.sealed_of_not_mem (by decide) (by decide)
  · exact Edit.sealed_of_not_mem (by decide) (by decide)
  · exact Edit.sealed_of_not_mem (by decide) (by decide)
  · intro x hproper
    have hnot : '#' ∉ x.text := Shell.Expansion.not_mem_text hproper (by decide) (by decide)
    exact Edit.sealed_of_not_mem hnot hnot
  · intro a _ _
    exact Escaping.sealed_edit a

/-! ## Scrubbing -/

namespace Scrubber

variable {e : Char} {marker : Text} {escaped : Bool}

/-- In settled text a bracket stands behind an escape character; in front it is escaped. -/
theorem Settled.linked {t : Text} (h : Settled e marker escaped t) (he : e ∈ shields)
    (hmarker : '[' ∉ marker) : Linked '[' t ∧ (escaped = false → t.head? ≠ some '[') := by
  induction h with
  | nil => exact ⟨List.IsChain.nil, fun _ => by simp⟩
  | @mark escaped t hne ht ih =>
    have hrest : Shielded '[' t := ⟨ih.1, ih.2 rfl⟩
    have hwhole := (shielded_of_not_mem hmarker).append hrest
    exact ⟨hwhole.linked, fun _ => hwhole.head⟩
  | @char escaped a t ha ht ih =>
    obtain ⟨hlinked, hhead⟩ := ih
    constructor
    · apply List.IsChain.cons hlinked
      rintro b hb rfl
      -- a bracket is behind this character only if this one escapes it
      by_cases hbit : (decide (a = e) && !escaped) = true
      · have hae : a = e := by simpa using (Bool.and_eq_true_iff.1 hbit).1
        rw [hae]
        exact he
      · exact absurd hb (hhead (Bool.eq_false_iff.2 hbit))
    · rintro rfl hbracket
      obtain rfl : a = '[' := Option.some.inj hbracket
      exact absurd ha (by decide)

/-- The default rule counts single characters. -/
theorem exists_symbol_allowEdits (before : Option Char) (segment : Text) :
    ∀ edit ∈ allowEdits e marker before segment, ∀ symbol ∈ edit.symbol?, ∃ a, symbol = [a] := by
  fun_induction allowEdits e marker before segment with
  | case1 => exact List.forall_mem_nil _
  | case2 before a t rest h _ ih =>
    refine List.forall_mem_cons.2 ⟨?_, ih⟩
    rintro symbol ⟨⟩
  | case3 before a t h ih =>
    refine List.forall_mem_cons.2 ⟨?_, ih⟩
    unfold charEdit
    split
    · rintro symbol ⟨⟩
    · rintro symbol ⟨⟩
      exact ⟨a, rfl⟩

/-- The default rule leaves no bracket bare. -/
theorem sealed_run (s : Scrubber) (hpattern : s.pattern? = none) (arguments : Text) :
    (s.run arguments).Sealed '[' := by
  have hshield : ∀ convention : EscapeConvention, convention.char ∈ shields := by
    rintro (_ | _) <;> decide
  have hmarker : '[' ∉ s.marker := by
    intro hmem
    have hallowed := Marker.isAllowed_of_fault?_eq_none s.marker_safe hmem (by decide)
    exact absurd hallowed (by decide)
  obtain ⟨hlinked, hhead⟩ :=
    (s.settled_run hpattern arguments).linked (hshield s.convention) hmarker
  have hsymbols : ∀ edit ∈ s.edits arguments, ∀ symbol ∈ edit.symbol?, ∃ a, symbol = [a] := by
    apply s.forall_mem_edits (motive := fun edit => ∀ symbol ∈ edit.symbol?, ∃ a, symbol = [a])
    · rintro text symbol ⟨⟩
    · intro segment _
      unfold segmentEdits
      rw [hpattern]
      exact exists_symbol_allowEdits none segment
  refine Outcome.sealed_ofEdits ⟨hlinked, hhead rfl⟩ fun symbol hsymbol => ?_
  obtain ⟨edit, hedit, hcounted⟩ := List.mem_filterMap.1 hsymbol
  obtain ⟨a, rfl⟩ := hsymbols edit hedit symbol hcounted
  exact linked_singleton '[' a

end Scrubber

/-! ## Commands -/

/--
Is what the policy scrubs used, and scrubbed by the default rule?  Neither the area nor the feature,
which the policy names itself, may hold a bracket.
-/
structure Policy.Guards (p : Policy) : Prop where
  enforced : p.reporting.enforcement = .enforce
  unpatterned : p.pattern? = none
  area : '[' ∉ p.reporting.area
  feature : ∀ feature, p.reporting.feature? = some feature → '[' ∉ feature

theorem Policy.Guards.sealed_run {p : Policy} (h : p.Guards) {s : Scrubber}
    (hs : p.scrubber = .ok s) (value : Text) : (s.run value).Sealed '[' := by
  have hnone : p.settings.pattern? = none := h.unpatterned
  obtain ⟨-, -, hpattern⟩ := Scrubber.eq_of_ofSettings hnone hs
  exact s.sealed_run hpattern value

/-- What is due under such a policy is the sign with shielded text behind it. -/
theorem Policy.Guards.exists_line_eq {p : Policy} (h : p.Guards) {outcome : Outcome}
    (hsealed : outcome.Sealed '[') {line : Text} (hdue : Due p.reporting outcome line) :
    ∃ rest, Shielded '[' rest ∧ line = sign ++ rest := by
  obtain @⟨record, feature, hrecord, hcollect, hfeature, hne⟩ := hdue
  have hlinked : record.Linked '[' := hsealed.symbols record hrecord
  exact Record.exists_command_eq hlinked h.area (h.feature feature hfeature)

namespace IoOptions

variable {c : Char} {o : Outcome}

theorem shielded_render (hc : IsMark c) (h : o.Sealed c) (io : IoOptions) :
    Shielded c (io.render o.text o.record?) := by
  unfold render
  split
  · exact h.encode hc
  · exact h.text

/-- A sealed outcome puts only shielded text on the standard output. -/
theorem shielded_delivered (hc : IsMark c) (h : o.Sealed c) (io : IoOptions) :
    Shielded c (io.delivered (io.render o.text o.record?)).1 := by
  unfold delivered
  split
  · exact (shielded_render hc h io).append (hc.shielded (by decide))
  · exact shielded_of_not_mem List.not_mem_nil

end IoOptions

namespace Request

variable {r : Request} {w : World} {policy : Policy} {value : Text} {transform : Transform}

/-- Is the command meant to write only what no agent acts on?  Quoting leaves a value as it is. -/
def Guards (r : Request) (w : World) : Prop :=
  match r.command with
  | .sanitize options => ∀ policy, (options.resolve w).result = .ok policy → policy.Guards
  | .quote => False
  | .neutralize => True
  | .escape => True

theorem Guards.policy_guards (h : r.Guards w) (hpolicy : (r.policy w).result = .ok policy)
    {options : PolicyOptions} (hcommand : r.command = .sanitize options) : policy.Guards := by
  unfold Guards at h
  rw [hcommand] at h
  rw [policy_of_sanitize hcommand] at hpolicy
  exact h policy hpolicy

/-- No bracket is bare in the outcome of such a command that sanitizes. -/
theorem Guards.sealed_of_sanitize (h : r.Guards w) (hprepared : r.Prepared w policy value transform)
    {options : PolicyOptions} (hcommand : r.command = .sanitize options) :
    (transform.run value).Sealed '[' := by
  obtain ⟨s, hs, rfl⟩ := (build_eq_ok_iff hcommand).1 hprepared.built
  exact (h.policy_guards hprepared.resolved hcommand).sealed_run hs value

/-- One mark of the sign is never bare in the outcome of such a command. -/
theorem Guards.exists_sealed (h : r.Guards w) (hprepared : r.Prepared w policy value transform) :
    ∃ c, IsMark c ∧ (transform.run value).Sealed c := by
  have hbuild := hprepared.built
  cases hcommand : r.command with
  | sanitize options => exact ⟨'[', .bracket, h.sealed_of_sanitize hprepared hcommand⟩
  | quote => simp [Guards, hcommand] at h
  | neutralize =>
    rw [hcommand] at hbuild
    cases hbuild
    exact ⟨'#', .number, sealed_neutralize value⟩
  | escape =>
    rw [hcommand] at hbuild
    cases hbuild
    exact ⟨'#', .number, sealed_escape value⟩

/-- Such a command shows what the transform makes of its value, behind what it publishes. -/
theorem Guards.output_eq (h : r.Guards w) (hrun : (r.run w).result = .ok ()) :
    ∃ policy value transform published, r.Prepared w policy value transform ∧
      r.Published w published ∧
      (r.run w).trace.output = published ++
        (r.io.delivered (r.io.render (transform.run value).text (transform.run value).record?)).1 := by
  obtain ⟨policy, value, transform, shown, hprepared, hshown, hwritten⟩ :=
    exists_prepared_of_run_eq_ok hrun
  have henforce : ∀ options, r.command = .sanitize options →
      policy.reporting.enforcement = .enforce := fun options hcommand =>
    (h.policy_guards hprepared.resolved hcommand).enforced
  obtain ⟨rfl, hpublished⟩ := published_of_output hprepared hshown
  rw [shown_of_enforce henforce] at hwritten
  exact ⟨policy, value, transform, _, hprepared, hpublished, congrArg Prod.fst hwritten⟩

/--
On the standard output of such a command the sign stands once if a line is published, and nowhere
otherwise, whatever the value, the marker and the convention are, and with JSON as well.
-/
theorem occurrences_sign_execute {wording : Wording} (hguards : r.Guards w)
    (hcode : exitCode (r.execute wording w).1 = 0) :
    ((∃ line, r.Publishes w line) →
        occurrences sign (r.execute wording w).2.output = 1) ∧
      ((∀ line, ¬ r.Publishes w line) →
        occurrences sign (r.execute wording w).2.output = 0) := by
  have hrun := exitCode_execute_eq_zero_iff.1 hcode
  have hexecuted : (r.execute wording w).2.output = (r.run w).trace.output :=
    congrArg Prod.fst (written_execute wording r w)
  obtain ⟨policy, value, transform, published, hprepared, hpublished, houtput⟩ :=
    hguards.output_eq hrun
  rw [hexecuted, houtput]
  cases hpublished with
  | @line line hline htaken =>
    refine ⟨fun _ => ?_, fun hnone => absurd hline (hnone line)⟩
    -- only sanitizing publishes; the line begins with the sign, and behind it there is no other
    obtain ⟨⟨options, hcommand⟩, hdue⟩ := hline.due hprepared
    have hsealed := hguards.sealed_of_sanitize hprepared hcommand
    obtain ⟨rest, hrest, rfl⟩ :=
      (hguards.policy_guards hprepared.resolved hcommand).exists_line_eq hsealed hdue
    have hfeed : Shielded '[' ['\n'] := shielded_of_not_mem (by decide)
    have hbehind := (hrest.append hfeed).append (IoOptions.shielded_delivered .bracket hsealed r.io)
    rw [List.append_assoc sign, List.append_assoc sign, occurrences_sign_append,
      occurrences_sign_of_linked .bracket hbehind.linked]
  | nothing hnone =>
    refine ⟨fun ⟨line, hline⟩ => absurd hline (hnone line), fun _ => ?_⟩
    obtain ⟨c, hmark, hsealed⟩ := hguards.exists_sealed hprepared
    have hresult := IoOptions.shielded_delivered hmark hsealed r.io
    rw [List.nil_append]
    exact occurrences_sign_of_linked hmark hresult.linked

/-- A command that scrubs the sign under a marker that ends like it, publishes, and shows JSON. -/
def scrubSign : Request :=
  ⟨false, false, .sanitize { marker? := some "x#vso".toList, feature? := some ['F'] },
    { value? := some "##vso[\x60[".toList, json := true }⟩

/-- The sign in the value, the marker and the symbols of the record do not count. -/
theorem occurrences_sign_execute_scrubSign :
    scrubSign.Guards Jsonable.noWorld ∧
      exitCode (scrubSign.execute .plain Jsonable.noWorld).1 = 0 ∧
      (∃ line, scrubSign.Publishes Jsonable.noWorld line) ∧
      occurrences sign (scrubSign.execute .plain Jsonable.noWorld).2.output = 1 := by
  have hcode : exitCode (scrubSign.execute .plain Jsonable.noWorld).1 = 0 := by decide +kernel
  obtain ⟨policy, s, hpolicy, hs, hguards, hcollect, hfeature, haltered⟩ :
      ∃ policy s, (PolicyOptions.resolve
          { marker? := some "x#vso".toList, feature? := some ['F'] } Jsonable.noWorld).result =
            .ok policy ∧ policy.scrubber = .ok s ∧ policy.Guards ∧ policy.reporting.collect ∧
        policy.reporting.feature? = some ['F'] ∧ (s.run "##vso[\x60[".toList).isAltered := by
    refine ⟨_, _, rfl, rfl, ⟨rfl, rfl, by decide, ?_⟩, rfl, rfl, by decide +kernel⟩
    rintro feature ⟨⟩
    decide
  obtain ⟨record, hrecord⟩ := Option.isSome_iff_exists.1 haltered
  have hpublishes : scrubSign.Publishes Jsonable.noWorld _ :=
    .line rfl hpolicy rfl hs (.command hrecord hcollect hfeature (List.cons_ne_nil _ _))
  have hall : scrubSign.Guards Jsonable.noWorld := by
    intro found hfound
    rw [hpolicy] at hfound
    cases hfound
    exact hguards
  obtain ⟨honce, -⟩ := occurrences_sign_execute hall hcode
  exact ⟨hall, hcode, ⟨_, hpublishes⟩, honce ⟨_, hpublishes⟩⟩

end Request

end ShellGuard
