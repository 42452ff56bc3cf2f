import ShellGuard.CommandLine.Overlay
import ShellGuard.Proofs.Policy.Choosing

/-!
# Overlays — the policy of a command line beside the one that it is made of

A command line names a policy to begin with and says what is different.  What it says about one
setting changes no other one, the switches of the environment only ever add, and the result is
checked again, although the policy of a file was checked before.

## Main definitions

* `AsksFile`, `Base` — the file, and the policy, that a command line begins with.
* `Overridden` — a value that was read from what is given, or else the old one.
* `Overlays` — a policy that differs from another one exactly as a command line asks.
* `Readable` — a command line whose convention and pattern can be read.

## Main statements

* `result_base_eq_ok_iff` — which policy a command line begins with.
* `overlay_eq_ok_iff`, `Overlays.unique`, `exists_overlays_iff` — there is one policy that differs
  as asked if it can be read, and this is what is computed.
* `resolveWith_overlays` — when a command line has a policy, which one, and what it is good for.
-/

namespace ShellGuard

namespace Policy

/-- Every transform can be built for a usable policy. -/
theorem Usable.exists_build {p : Policy} (h : p.Usable) (kind : TransformKind) :
    ∃ transform, Transform.build kind p = .ok transform := by
  cases kind with
  | sanitize =>
    obtain ⟨s, hs⟩ := h
    exact ⟨.scrub s, by simp only [Transform.build, hs]⟩
  | quote => exact ⟨.quote, rfl⟩
  | neutralize => exact ⟨.neutralize, rfl⟩
  | escape => exact ⟨.escape, rfl⟩

end Policy

namespace PolicyOptions

open Policy (Says Chosen)

variable {o : PolicyOptions} {s : Switches} {w : World} {path : Path} {base policy : Policy}

/-! ## The policy to begin with -/

/-- Does the command line begin with the policy of the file at a path? -/
inductive AsksFile (o : PolicyOptions) (w : World) (path : Path) : Prop
  | config (hconfig : o.config? = some path) : AsksFile o w path
  | named {name : Text} {rank : Nat} (hconfig : o.config? = none) (hname : o.policy? = some name)
      (hchosen : Chosen w name rank path) : AsksFile o w path

inductive Base (o : PolicyOptions) (w : World) : Policy → Prop
  | file {path : Path} {p : Policy} (hasks : AsksFile o w path) (hstated : Says w path p) :
      Base o w p
  | standard (hconfig : o.config? = none) (hname : o.policy? = none) : Base o w .standard

/-- Nothing but the file that is asked for decides. -/
theorem AsksFile.result_base_eq_ok_iff (h : AsksFile o w path) :
    (o.base w).result = .ok policy ↔ Says w path policy := by
  cases h with
  | config hconfig =>
    simp only [base, hconfig]
    rw [Policy.result_load, Policy.ofPath_eq_ok_iff]
  | named hconfig hname hchosen =>
    simp only [base, hconfig, hname, Run.within]
    rw [mapError_eq_ok_iff, Policy.result_loadNamed_of_chosen hchosen, Policy.result_load,
      Policy.ofPath_eq_ok_iff]

theorem result_base_eq_ok_iff : (o.base w).result = .ok policy ↔ Base o w policy := by
  constructor
  · intro h
    cases hconfig : o.config? with
    | some path =>
      have hasks : AsksFile o w path := .config hconfig
      exact .file hasks (hasks.result_base_eq_ok_iff.1 h)
    | none =>
      cases hname : o.policy? with
      | some name =>
        -- a name has a policy only if a file was chosen for it
        simp only [PolicyOptions.base, hconfig, hname, Run.within] at h
        obtain ⟨rank, path, hchosen, hstated⟩ :=
          Policy.result_loadNamed_eq_ok_iff.1 (mapError_eq_ok_iff.1 h)
        exact .file (.named hconfig hname hchosen) hstated
      | none =>
        simp only [PolicyOptions.base, hconfig, hname] at h
        cases h
        exact .standard hconfig hname
  · intro h
    cases h with
    | file hasks hstated => exact hasks.result_base_eq_ok_iff.2 hstated
    | standard hconfig hname =>
      simp only [PolicyOptions.base, hconfig, hname]
      rfl

/-! ## One setting -/

section Overridden

variable {α β : Type} {reads : α → β → Prop} {old new new' : β} {given? : Option α}

/-- Is the value what is given, as it reads, or else the old one? -/
inductive Overridden (reads : α → β → Prop) (old : β) : (given? : Option α) → β → Prop
  | given {a : α} {new : β} (h : reads a new) : Overridden reads old (some a) new
  | kept : Overridden reads old none old

theorem overridden_none_iff : Overridden reads old none new ↔ new = old := by
  constructor
  · rintro ⟨⟩
    rfl
  · rintro rfl
    exact .kept

theorem overridden_some_iff {a : α} : Overridden reads old (some a) new ↔ reads a new := by
  constructor
  · rintro ⟨h⟩
    exact h
  · exact .given

theorem Overridden.unique (hreads : ∀ {a new new'}, reads a new → reads a new' → new = new')
    (h : Overridden reads old given? new) (h' : Overridden reads old given? new') : new = new' := by
  cases h with
  | given h => exact hreads h (overridden_some_iff.1 h')
  | kept => exact (overridden_none_iff.1 h').symm

/-- Only what is given and cannot be read is in the way of a new value. -/
theorem exists_overridden_iff :
    (∃ new, Overridden reads old given? new) ↔ ∀ a, given? = some a → ∃ new, reads a new := by
  cases given? with
  | none =>
    constructor
    · intro _ a ha
      cases ha
    · intro _
      exact ⟨old, .kept⟩
  | some a =>
    constructor
    · rintro ⟨new, h⟩ _ ⟨⟩
      exact ⟨new, overridden_some_iff.1 h⟩
    · intro h
      obtain ⟨new, hnew⟩ := h a rfl
      exact ⟨new, .given hnew⟩

end Overridden

/-- A text that is given counts as it is. -/
def Verbatim (text : Text) (setting? : Option Text) : Prop :=
  setting? = some text

def NamesConvention (name : Text) (convention : EscapeConvention) : Prop :=
  EscapeConvention.ofName? name = some convention

def SpellsPattern (literal : Text) (rule? : Option PatternRule) : Prop :=
  ∃ rule, PatternRule.ofLiteral literal = .ok rule ∧ rule? = some rule

theorem overridden_verbatim_iff {given? old? new? : Option Text} :
    Overridden Verbatim old? given? new? ↔ (given? <|> old?) = new? := by
  cases given? with
  | none => exact overridden_none_iff.trans eq_comm
  | some text => exact overridden_some_iff.trans eq_comm

theorem conventionOver_eq_ok_iff {convention : EscapeConvention} :
    o.conventionOver base = .ok convention ↔
      Overridden NamesConvention base.convention o.convention? convention := by
  unfold conventionOver
  cases o.convention? with
  | none => simp [overridden_none_iff, eq_comm]
  | some name =>
    rw [overridden_some_iff]
    cases h : EscapeConvention.ofName? name <;> simp [NamesConvention, h]

theorem patternOver_eq_ok_iff {rule? : Option PatternRule} :
    o.patternOver base = .ok rule? ↔
      Overridden SpellsPattern base.pattern? o.pattern? rule? := by
  unfold patternOver
  cases o.pattern? with
  | none => simp [overridden_none_iff, eq_comm]
  | some literal =>
    rw [overridden_some_iff]
    cases h : PatternRule.ofLiteral literal <;> simp [SpellsPattern, h, eq_comm]

/-! ## All settings -/

/-- Does a policy differ from its base exactly as the command line and the switches ask? -/
structure Overlays (o : PolicyOptions) (s : Switches) (base policy : Policy) : Prop where
  convention : Overridden NamesConvention base.convention o.convention? policy.convention
  pattern : Overridden SpellsPattern base.pattern? o.pattern? policy.pattern?
  marker : Overridden Verbatim base.marker? o.marker? policy.marker?
  feature : Overridden Verbatim base.reporting.feature? o.feature? policy.reporting.feature?
  enforcement : policy.reporting.enforcement =
    if o.audit then .audit else base.reporting.enforcement
  collect : policy.reporting.collect ↔
    base.reporting.collect ∨ o.feature?.isSome ∨ s.telemetry
  warn : policy.reporting.warn ↔ base.reporting.warn ∨ s.auditLog ∨ s.enforce
  area : policy.reporting.area = base.reporting.area

/-- Can what the command line says about the convention and the pattern be read? -/
structure Readable (o : PolicyOptions) : Prop where
  convention : ∀ name, o.convention? = some name →
    ∃ convention, EscapeConvention.ofName? name = some convention
  pattern : ∀ literal, o.pattern? = some literal → ∃ rule, PatternRule.ofLiteral literal = .ok rule

theorem Overlays.reporting_eq (h : Overlays o s base policy) :
    (o.reportingOver base.reporting).withSwitches s = policy.reporting := by
  have henforcement := h.enforcement
  have hcollect := h.collect
  have hwarn := h.warn
  have harea := h.area
  have hfeature := overridden_verbatim_iff.1 h.feature
  -- the fields of the result are compared one by one
  cases hreporting : policy.reporting
  simp only [hreporting] at henforcement hcollect hwarn harea hfeature
  simp only [reportingOver, Reporting.withSwitches, Reporting.mk.injEq]
  refine ⟨henforcement.symm, ?_, ?_, harea.symm, hfeature⟩
  · rw [Bool.eq_iff_iff, hwarn]
    simp [or_assoc]
  · rw [Bool.eq_iff_iff, hcollect]
    simp [or_assoc]

theorem overlay_eq_ok_iff : o.overlay s base = .ok policy ↔ Overlays o s base policy := by
  unfold overlay
  constructor
  · intro h
    obtain ⟨convention, hconvention, h⟩ := bind_eq_ok_iff.1 h
    obtain ⟨pattern?, hpattern, h⟩ := bind_eq_ok_iff.1 h
    cases h
    exact {
      convention := conventionOver_eq_ok_iff.1 hconvention
      pattern := patternOver_eq_ok_iff.1 hpattern
      marker := overridden_verbatim_iff.2 rfl
      feature := overridden_verbatim_iff.2 rfl
      enforcement := rfl
      collect := by simp [reportingOver, Reporting.withSwitches, or_assoc]
      warn := by simp [reportingOver, Reporting.withSwitches, or_assoc]
      area := rfl }
  · intro h
    refine bind_eq_ok_iff.2 ⟨_, conventionOver_eq_ok_iff.2 h.convention, ?_⟩
    refine bind_eq_ok_iff.2 ⟨_, patternOver_eq_ok_iff.2 h.pattern, ?_⟩
    rw [overridden_verbatim_iff.1 h.marker, h.reporting_eq]
    rfl

theorem Overlays.unique (h : Overlays o s base policy) {policy' : Policy}
    (h' : Overlays o s base policy') : policy = policy' :=
  Except.ok.inj ((overlay_eq_ok_iff.2 h).symm.trans (overlay_eq_ok_iff.2 h'))

/-- Whether there is a policy that differs as asked does not depend on the base. -/
theorem exists_overlays_iff : (∃ policy, Overlays o s base policy) ↔ o.Readable := by
  constructor
  · rintro ⟨policy, h⟩
    -- what is given for a setting has been read, since the policy has a value for it
    refine ⟨exists_overridden_iff.1 ⟨_, h.convention⟩, ?_⟩
    intro literal hliteral
    obtain ⟨_, rule, hrule, -⟩ := exists_overridden_iff.1 ⟨_, h.pattern⟩ literal hliteral
    exact ⟨rule, hrule⟩
  · intro h
    have hpattern :
        ∀ literal, o.pattern? = some literal → ∃ rule?, SpellsPattern literal rule? := by
      intro literal hliteral
      obtain ⟨rule, hrule⟩ := h.pattern literal hliteral
      exact ⟨some rule, rule, hrule, rfl⟩
    have hconvention : ∃ convention,
        Overridden NamesConvention base.convention o.convention? convention :=
      exists_overridden_iff.2 h.convention
    have hrule : ∃ rule?, Overridden SpellsPattern base.pattern? o.pattern? rule? :=
      exists_overridden_iff.2 hpattern
    obtain ⟨convention, hconvention⟩ := hconvention
    obtain ⟨rule?, hrule⟩ := hrule
    have hoverlay : o.overlay s base = .ok {
        convention
        marker? := o.marker? <|> base.marker?
        pattern? := rule?
        reporting := (o.reportingOver base.reporting).withSwitches s } := by
      refine bind_eq_ok_iff.2 ⟨convention, conventionOver_eq_ok_iff.2 hconvention, ?_⟩
      exact bind_eq_ok_iff.2 ⟨rule?, patternOver_eq_ok_iff.2 hrule, rfl⟩
    exact ⟨_, overlay_eq_ok_iff.1 hoverlay⟩

/-! ## The policy of a command line -/

theorem checked_eq_ok_iff {p : Policy} : checked p = .ok policy ↔ p = policy ∧ p.Usable := by
  rw [← Policy.check_eq_ok_iff]
  unfold checked
  cases p.check <;> simp

theorem result_resolveWith_eq_ok_iff :
    (o.resolveWith s w).result = .ok policy ↔
      ∃ base, Base o w base ∧ Overlays o s base policy ∧ policy.Usable := by
  unfold resolveWith
  constructor
  · intro h
    obtain ⟨base, hbase, h⟩ := Run.bind_eq_ok.1 h
    obtain ⟨p, hp, h⟩ := Run.bind_eq_ok.1 h
    obtain ⟨_, -, hpure⟩ := Run.bind_eq_ok.1 h
    obtain ⟨overlaid, hoverlay, hchecked⟩ := bind_eq_ok_iff.1 hp
    cases hpure
    obtain ⟨rfl, husable⟩ := checked_eq_ok_iff.1 hchecked
    exact ⟨base, result_base_eq_ok_iff.1 hbase, overlay_eq_ok_iff.1 hoverlay, husable⟩
  · rintro ⟨base, hbase, hoverlays, husable⟩
    refine Run.bind_eq_ok.2 ⟨base, result_base_eq_ok_iff.2 hbase, ?_⟩
    refine Run.bind_eq_ok.2 ⟨policy, ?_, Run.bind_eq_ok.2 ⟨(), rfl, rfl⟩⟩
    exact bind_eq_ok_iff.2
      ⟨policy, overlay_eq_ok_iff.2 hoverlays, checked_eq_ok_iff.2 ⟨rfl, husable⟩⟩

/-- A file that is asked for and says a policy that is not usable is no base. -/
theorem not_base_of_not_usable {text : Text} {p : Policy} (hasks : AsksFile o w path)
    (hread : w.read path = .ok text) (hpolicy : Policy.ofText text = .ok p) (h : ¬ p.Usable) :
    ¬ Base o w base := by
  intro hbase
  obtain ⟨hread', hpolicy', husable⟩ :=
    hasks.result_base_eq_ok_iff.1 (result_base_eq_ok_iff.2 hbase)
  cases hread.symm.trans hread'
  cases hpolicy.symm.trans hpolicy'
  exact h husable

/--
The policy of a command line differs from the one that it begins with exactly as the command line
and the switches ask, and is usable.  There is one if what the command line says can be read, if
there is a policy to begin with and if the policy that differs from this one as asked is usable.
Every transform can be built for it.  A file whose policy is not usable by itself is a failure,
whatever is different.
-/
theorem resolveWith_overlays (o : PolicyOptions) (s : Switches) (w : World) :
    (∀ policy, (o.resolveWith s w).result = .ok policy ↔
      ∃ base, Base o w base ∧ Overlays o s base policy ∧ policy.Usable) ∧
    ((∃ policy, (o.resolveWith s w).result = .ok policy) ↔
      ∃ base, Base o w base ∧ o.Readable ∧ ∀ policy, Overlays o s base policy → policy.Usable) ∧
    (∀ policy, (o.resolveWith s w).result = .ok policy →
      ∀ kind, ∃ transform, Transform.build kind policy = .ok transform) ∧
    ∀ path text p, AsksFile o w path → w.read path = .ok text → Policy.ofText text = .ok p →
      ¬ p.Usable → ∃ failure, (o.resolveWith s w).result = .error failure := by
  refine ⟨?_, ?_, ?_, ?_⟩
  · intro policy
    exact result_resolveWith_eq_ok_iff
  · constructor
    · rintro ⟨policy, h⟩
      obtain ⟨base, hbase, hoverlays, husable⟩ := result_resolveWith_eq_ok_iff.1 h
      refine ⟨base, hbase, exists_overlays_iff.1 ⟨policy, hoverlays⟩, ?_⟩
      -- no other policy differs from this base as asked
      intro policy' hoverlays'
      rw [← hoverlays.unique hoverlays']
      exact husable
    · rintro ⟨base, hbase, hreadable, husable⟩
      obtain ⟨policy, hoverlays⟩ := exists_overlays_iff.2 hreadable
      exact ⟨policy, result_resolveWith_eq_ok_iff.2
        ⟨base, hbase, hoverlays, husable policy hoverlays⟩⟩
  · intro policy h kind
    obtain ⟨base, -, -, husable⟩ := result_resolveWith_eq_ok_iff.1 h
    exact husable.exists_build kind
  · intro path text p hasks hread hpolicy hunusable
    cases h : (o.resolveWith s w).result with
    | error failure => exact ⟨failure, rfl⟩
    | ok policy =>
      obtain ⟨base, hbase, -⟩ := result_resolveWith_eq_ok_iff.1 h
      exact absurd hbase (not_base_of_not_usable hasks hread hpolicy hunusable)

/-- Two files with policies: one with a marker that is refused, the other one without warnings. -/
def twoFiles : World where
  environment := fun _ => none
  accountHome? := none
  entry := fun path =>
    if path = ['p'] then ⟨true, .ok (.ofText "replacement_marker: \";\"".toList), .ok ()⟩
    else if path = ['q'] then ⟨true, .ok (.ofText "reporting: \x7bwarn: false\x7d".toList), .ok ()⟩
    else ⟨false, .error .notFound, .error .notFound⟩
  input := .error .notFound

/-- Another marker does not mend the first file, and the second one is used as it is asked for. -/
theorem resolveWith_overlays_files :
    (∃ p policy failure, Policy.ofText "replacement_marker: \";\"".toList = .ok p ∧
      Overlays { config? := some ['p'], marker? := some ['m'] } {} p policy ∧ policy.Usable ∧
      (resolveWith { config? := some ['p'], marker? := some ['m'] } {} twoFiles).result =
        .error failure) ∧
    ∃ policy, (resolveWith { config? := some ['q'], feature? := some ['F'], audit := true }
        { enforce := true } twoFiles).result = .ok policy ∧
      policy.reporting = ⟨.audit, true, true, defaultArea, some ['F']⟩ ∧
      ∀ kind, ∃ transform, Transform.build kind policy = .ok transform := by
  constructor
  · have hpolicy : Policy.ofText "replacement_marker: \";\"".toList =
        .ok { marker? := some [';'] } := toOption_eq_some_iff.1 (by decide +kernel)
    have hunusable : ¬ ({ marker? := some [';'] } : Policy).Usable := by
      rintro ⟨scrubber, h⟩
      cases h
    obtain ⟨-, -, -, hfails⟩ :=
      resolveWith_overlays { config? := some ['p'], marker? := some ['m'] } {} twoFiles
    obtain ⟨failure, hfailure⟩ := hfails ['p'] _ _ (.config rfl) rfl hpolicy hunusable
    exact ⟨_, { marker? := some ['m'] }, failure, hpolicy, overlay_eq_ok_iff.1 rfl, ⟨_, rfl⟩,
      hfailure⟩
  · have hpolicy : Policy.ofText "reporting: \x7bwarn: false\x7d".toList =
        .ok { reporting := { warn := false } } := toOption_eq_some_iff.1 (by decide +kernel)
    obtain ⟨hpolicies, -, hbuilds, -⟩ :=
      resolveWith_overlays { config? := some ['q'], feature? := some ['F'], audit := true }
        { enforce := true } twoFiles
    have hbase : Base { config? := some ['q'], feature? := some ['F'], audit := true } twoFiles
        { reporting := { warn := false } } := .file (.config rfl) (.file rfl hpolicy ⟨_, rfl⟩)
    have hresult := (hpolicies _).2 ⟨_, hbase, overlay_eq_ok_iff.1 rfl, ⟨_, rfl⟩⟩
    exact ⟨_, hresult, rfl, hbuilds _ hresult⟩

end PolicyOptions
end ShellGuard
