import ShellGuard.Scrubbing.PatternRule

/-!
# Pattern literals — which texts are literals, and which rule a literal says

The last slash of a literal closes its pattern, so a pattern may hold slashes and its flags may not.
A flag is one of five letters.  The order of the flags does not matter, nor does how often one of
them stands there, but the first letter that is no flag is the fault.

## Main definitions

* `IsFlag`, `flagged` — the letters behind a pattern, and the rule with some of them.
* `Malformed` — what is wrong with a text that begins with a slash.
* `literal` — a rule as it is written.

## Main statements

* `splitAtLastSlash?_append`, `eq_of_splitAtLastSlash?` — where a text is parted.
* `withFlags_eq` — all flags are taken together, or the first unknown one is the fault.
* `ofLiteral_eq_error_iff` — a text is refused exactly for what is wrong with it.
* `ofLiteral_literal` — every rule is read back from its literal.
* `ofLiteral_grammar` — the texts that are accepted, and their rules.
-/

namespace ShellGuard
namespace PatternRule

def IsFlag (c : Char) : Prop :=
  c ∈ ['g', 'i', 'm', 's', 'u']

instance (c : Char) : Decidable (IsFlag c) :=
  inferInstanceAs (Decidable (c ∈ _))

/-- What is wrong with a text that begins with a slash. -/
inductive Malformed : Text → LiteralFault → Prop
  /-- No other slash closes the pattern. -/
  | unclosed {body : Text} (hslash : '/' ∉ body) : Malformed ('/' :: body) .unclosed
  /-- Of the letters behind the last slash this is the first one that is no flag. -/
  | unknownFlag {pattern known more : Text} {flag : Char} (hslash : '/' ∉ known ++ flag :: more)
      (hknown : ∀ c ∈ known, IsFlag c) (hflag : ¬ IsFlag flag) :
      Malformed ('/' :: (pattern ++ '/' :: (known ++ flag :: more))) (.unknownFlag flag)

variable {rule : PatternRule} {t pattern flags body before behind : Text}

/-! ## The last slash -/

theorem splitAtLastSlash?_eq_none_iff : splitAtLastSlash? t = none ↔ '/' ∉ t := by
  induction t with
  | nil => simp [splitAtLastSlash?]
  | cons c t ih =>
    cases h : splitAtLastSlash? t with
    | none =>
      have hnone : '/' ∉ t := ih.1 h
      by_cases hc : c = '/'
      · simp [splitAtLastSlash?, h, hc]
      · simp [splitAtLastSlash?, h, hc, hnone, Ne.symm hc]
    | some parts =>
      have hsome : ¬ '/' ∉ t := by
        intro hnone
        rw [ih.2 hnone] at h
        cases h
      simp [splitAtLastSlash?, h, Decidable.not_not.1 hsome]

/-- A text with a slash is parted at the last one. -/
theorem splitAtLastSlash?_append (before : Text) (h : '/' ∉ behind) :
    splitAtLastSlash? (before ++ '/' :: behind) = some (before, behind) := by
  induction before with
  | nil => simp [splitAtLastSlash?, splitAtLastSlash?_eq_none_iff.2 h]
  | cons c before ih => simp [splitAtLastSlash?, ih]

theorem eq_of_splitAtLastSlash? (h : splitAtLastSlash? t = some (before, behind)) :
    t = before ++ '/' :: behind ∧ '/' ∉ behind := by
  induction t generalizing before with
  | nil => cases h
  | cons c t ih =>
    cases hrest : splitAtLastSlash? t with
    | none =>
      -- the slash can only be the first character
      have hnone : '/' ∉ t := splitAtLastSlash?_eq_none_iff.1 hrest
      by_cases hc : c = '/'
      · simp only [splitAtLastSlash?, hrest, hc, if_true, Option.some.injEq, Prod.mk.injEq] at h
        obtain ⟨rfl, rfl⟩ := h
        exact ⟨by rw [hc, List.nil_append], hnone⟩
      · simp [splitAtLastSlash?, hrest, hc] at h
    | some parts =>
      obtain ⟨front, back⟩ := parts
      simp only [splitAtLastSlash?, hrest, Option.some.injEq, Prod.mk.injEq] at h
      obtain ⟨rfl, rfl⟩ := h
      obtain ⟨rfl, hback⟩ := ih hrest
      exact ⟨rfl, hback⟩

/-- A text begins with no slash, or its only slash is in front, or the last one is behind it. -/
theorem literal_cases (t : Text) :
    t.head? ≠ some '/' ∨ (∃ body, t = '/' :: body ∧ '/' ∉ body) ∨
      ∃ pattern flags, t = '/' :: (pattern ++ '/' :: flags) ∧ '/' ∉ flags := by
  by_cases hhead : t.head? = some '/'
  · right
    obtain ⟨body, rfl⟩ := List.head?_eq_some_iff.1 hhead
    cases h : splitAtLastSlash? body with
    | none => exact .inl ⟨body, rfl, splitAtLastSlash?_eq_none_iff.1 h⟩
    | some parts =>
      obtain ⟨pattern, flags⟩ := parts
      obtain ⟨rfl, hflags⟩ := eq_of_splitAtLastSlash? h
      exact .inr ⟨pattern, flags, rfl, hflags⟩
  · exact .inl hhead

/-! ## Flags -/

/-- The rule with some flags, whatever their order. -/
def flagged (rule : PatternRule) (flags : Text) : PatternRule :=
  { rule with
    reach := if 'g' ∈ flags then .every else rule.reach
    caseInsensitive := rule.caseInsensitive || 'i' ∈ flags
    multiLine := rule.multiLine || 'm' ∈ flags
    dotMatchesNewLine := rule.dotMatchesNewLine || 's' ∈ flags }

@[simp] theorem flagged_nil (rule : PatternRule) : rule.flagged [] = rule := by
  simp [flagged]

/-- One flag in front of others is taken first. -/
theorem flagged_cons (rule : PatternRule) (flag : Char) (flags : Text) :
    rule.flagged (flag :: flags) = (rule.flagged [flag]).flagged flags := by
  have hreach : (if 'g' = flag ∨ 'g' ∈ flags then Reach.every else rule.reach) =
      if 'g' ∈ flags then .every else if 'g' = flag then .every else rule.reach := by
    by_cases hflag : 'g' = flag <;> by_cases hflags : 'g' ∈ flags <;> simp [hflag, hflags]
  simp [flagged, hreach, Bool.or_assoc]

theorem withFlag?_of_isFlag (rule : PatternRule) {flag : Char} (h : IsFlag flag) :
    rule.withFlag? flag = some (rule.flagged [flag]) := by
  simp only [IsFlag, List.mem_cons, List.not_mem_nil, or_false] at h
  rcases h with rfl | rfl | rfl | rfl | rfl <;> simp [withFlag?, flagged]

theorem withFlag?_of_not_isFlag (rule : PatternRule) {flag : Char} (h : ¬ IsFlag flag) :
    rule.withFlag? flag = none := by
  unfold withFlag?
  split
  case h_6 => rfl
  all_goals exact absurd (by decide) h

def unknownFlag? (flags : Text) : Option Char :=
  flags.find? fun c => ¬ IsFlag c

theorem unknownFlag?_eq_none_iff : unknownFlag? flags = none ↔ ∀ c ∈ flags, IsFlag c := by
  simp [unknownFlag?, List.find?_eq_none]

theorem unknownFlag?_eq_some_iff {flag : Char} :
    unknownFlag? flags = some flag ↔ ¬ IsFlag flag ∧ ∃ known more,
      flags = known ++ flag :: more ∧ ∀ c ∈ known, IsFlag c := by
  simp [unknownFlag?, List.find?_eq_some_iff_append]

/-- All flags are taken together, or the first letter that is none is the fault. -/
theorem withFlags_eq (rule : PatternRule) (flags : Text) :
    rule.withFlags flags =
      match unknownFlag? flags with
      | none => .ok (rule.flagged flags)
      | some flag => .error (.unknownFlag flag) := by
  induction flags generalizing rule with
  | nil => simp [withFlags, unknownFlag?]
  | cons flag flags ih =>
    by_cases hflag : IsFlag flag
    · have hfirst : unknownFlag? (flag :: flags) = unknownFlag? flags := by
        simp [unknownFlag?, hflag]
      rw [withFlags, withFlag?_of_isFlag rule hflag, hfirst, flagged_cons rule flag flags]
      exact ih (rule.flagged [flag])
    · have hfirst : unknownFlag? (flag :: flags) = some flag := by
        simp [unknownFlag?, hflag]
      rw [withFlags, withFlag?_of_not_isFlag rule hflag, hfirst]

/-! ## Literals -/

theorem ofLiteral_plain (h : t.head? ≠ some '/') : ofLiteral t = .ok { pattern := t } := by
  unfold ofLiteral
  split
  · next body => exact absurd rfl h
  · rfl

theorem ofLiteral_unclosed (h : '/' ∉ body) :
    ofLiteral ('/' :: body) = .error (.badLiteral ('/' :: body) .unclosed) := by
  simp [ofLiteral, splitAtLastSlash?_eq_none_iff.2 h]

/-- Behind the last slash stand the flags, or a letter that is none. -/
theorem ofLiteral_closed (pattern : Text) (h : '/' ∉ flags) :
    ofLiteral ('/' :: (pattern ++ '/' :: flags)) =
      match unknownFlag? flags with
      | none => .ok (flagged { pattern := pattern, reach := .first } flags)
      | some flag =>
        .error (.badLiteral ('/' :: (pattern ++ '/' :: flags)) (.unknownFlag flag)) := by
  simp only [ofLiteral, splitAtLastSlash?_append pattern h, withFlags_eq]
  cases unknownFlag? flags <;> rfl

theorem slash_not_mem_of_isFlag (h : ∀ c ∈ flags, IsFlag c) : '/' ∉ flags := by
  intro hslash
  exact absurd (h '/' hslash) (by decide)

theorem ofLiteral_of_isFlag (pattern : Text) (h : ∀ c ∈ flags, IsFlag c) :
    ofLiteral ('/' :: (pattern ++ '/' :: flags)) =
      .ok (flagged { pattern := pattern, reach := .first } flags) := by
  rw [ofLiteral_closed pattern (slash_not_mem_of_isFlag h), unknownFlag?_eq_none_iff.2 h]

/-- A text is refused exactly for what is wrong with it. -/
theorem ofLiteral_eq_error_iff {error : ConfigError} :
    ofLiteral t = .error error ↔ ∃ fault, Malformed t fault ∧ error = .badLiteral t fault := by
  constructor
  · intro h
    rcases literal_cases t with hplain | ⟨body, rfl, hbody⟩ | ⟨pattern, flags, rfl, hflags⟩
    · rw [ofLiteral_plain hplain] at h
      cases h
    · rw [ofLiteral_unclosed hbody] at h
      cases h
      exact ⟨.unclosed, .unclosed hbody, rfl⟩
    · rw [ofLiteral_closed pattern hflags] at h
      cases hunknown : unknownFlag? flags with
      | none =>
        rw [hunknown] at h
        cases h
      | some flag =>
        rw [hunknown] at h
        cases h
        obtain ⟨hflag, known, more, rfl, hknown⟩ := unknownFlag?_eq_some_iff.1 hunknown
        exact ⟨.unknownFlag flag, .unknownFlag hflags hknown hflag, rfl⟩
  · rintro ⟨fault, hfault, rfl⟩
    cases hfault with
    | unclosed hbody => exact ofLiteral_unclosed hbody
    | unknownFlag hslash hknown hflag =>
      rw [ofLiteral_closed _ hslash, unknownFlag?_eq_some_iff.2 ⟨hflag, _, _, rfl, hknown⟩]

/-- What is wrong with a text, without saying which letter is the first that is no flag. -/
theorem exists_malformed_iff :
    (∃ fault, Malformed t fault) ↔ ∃ body, t = '/' :: body ∧
      ('/' ∉ body ∨ ∃ pattern flags, body = pattern ++ '/' :: flags ∧ '/' ∉ flags ∧
        ∃ c ∈ flags, ¬ IsFlag c) := by
  constructor
  · rintro ⟨fault, hfault⟩
    cases hfault with
    | unclosed hslash => exact ⟨_, rfl, .inl hslash⟩
    | unknownFlag hslash hknown hflag =>
      exact ⟨_, rfl, .inr ⟨_, _, rfl, hslash, _, by simp, hflag⟩⟩
  · rintro ⟨body, rfl, hbody | ⟨pattern, flags, rfl, hslash, c, hc, hflag⟩⟩
    · exact ⟨_, .unclosed hbody⟩
    · cases hunknown : unknownFlag? flags with
      | none => exact absurd (unknownFlag?_eq_none_iff.1 hunknown c hc) hflag
      | some first =>
        obtain ⟨hfirst, known, more, rfl, hknown⟩ := unknownFlag?_eq_some_iff.1 hunknown
        exact ⟨_, .unknownFlag hslash hknown hfirst⟩

/-! ## Rules as literals -/

def literalFlags (rule : PatternRule) : Text :=
  (if rule.reach = .every then ['g'] else []) ++ (if rule.caseInsensitive then ['i'] else []) ++
    (if rule.multiLine then ['m'] else []) ++ (if rule.dotMatchesNewLine then ['s'] else [])

/-- The rule as it is written: its pattern between slashes, and then its flags. -/
def literal (rule : PatternRule) : Text :=
  '/' :: (rule.pattern ++ '/' :: rule.literalFlags)

theorem isFlag_of_mem_literalFlags {c : Char} (h : c ∈ rule.literalFlags) : IsFlag c := by
  simp only [literalFlags, List.mem_append, List.mem_ite_nil_right, List.mem_singleton] at h
  rcases h with ((⟨-, rfl⟩ | ⟨-, rfl⟩) | ⟨-, rfl⟩) | ⟨-, rfl⟩ <;> decide

theorem flagged_literalFlags (rule : PatternRule) :
    flagged { pattern := rule.pattern, reach := .first } rule.literalFlags = rule := by
  obtain ⟨pattern, reach, caseInsensitive, multiLine, dotMatchesNewLine⟩ := rule
  cases reach <;> simp [flagged, literalFlags]

/-- Every rule is read back from its literal. -/
theorem ofLiteral_literal (rule : PatternRule) : ofLiteral rule.literal = .ok rule := by
  have hflags : ∀ c ∈ rule.literalFlags, IsFlag c := fun c hc => isFlag_of_mem_literalFlags hc
  rw [literal, ofLiteral_of_isFlag rule.pattern hflags, flagged_literalFlags]

/--
A text is refused exactly if it begins with a slash and has no other one, or has a letter behind its
last slash that is no flag.  A text that begins with no slash is a pattern by itself.  A pattern
between slashes, with any flags in any order behind it, is that pattern with what the flags ask for,
and so every rule has a literal.
-/
theorem ofLiteral_grammar :
    (∀ t, (∃ error, ofLiteral t = .error error) ↔ ∃ body, t = '/' :: body ∧
      ('/' ∉ body ∨ ∃ pattern flags, body = pattern ++ '/' :: flags ∧ '/' ∉ flags ∧
        ∃ c ∈ flags, c ∉ ['g', 'i', 'm', 's', 'u'])) ∧
    (∀ t, t.head? ≠ some '/' → ofLiteral t = .ok ⟨t, .every, false, false, false⟩) ∧
    (∀ pattern flags, (∀ c ∈ flags, c ∈ ['g', 'i', 'm', 's', 'u']) →
      ofLiteral ('/' :: (pattern ++ '/' :: flags)) =
        .ok ⟨pattern, if 'g' ∈ flags then .every else .first, 'i' ∈ flags, 'm' ∈ flags,
          's' ∈ flags⟩) ∧
    ∀ rule, ofLiteral rule.literal = .ok rule := by
  refine ⟨?_, ?_, ?_, ofLiteral_literal⟩
  · intro t
    have hrefused : (∃ error, ofLiteral t = .error error) ↔ ∃ fault, Malformed t fault := by
      constructor
      · rintro ⟨error, herror⟩
        obtain ⟨fault, hfault, -⟩ := ofLiteral_eq_error_iff.1 herror
        exact ⟨fault, hfault⟩
      · rintro ⟨fault, hfault⟩
        exact ⟨_, ofLiteral_eq_error_iff.2 ⟨fault, hfault, rfl⟩⟩
    exact hrefused.trans exists_malformed_iff
  · intro t hplain
    exact ofLiteral_plain hplain
  · intro pattern flags hflags
    rw [ofLiteral_of_isFlag pattern hflags]
    simp [flagged]

/-- Slashes in a pattern stay in it, and a flag that stands there twice asks for nothing more. -/
theorem ofLiteral_grammar_slashes :
    ofLiteral ['a', '/', 'b', '/'] = .ok ⟨['a', '/', 'b', '/'], .every, false, false, false⟩ ∧
      ofLiteral ['/', 'a', '/', 'b', '/', 's', 'g', 'u', 's'] =
        .ok ⟨['a', '/', 'b'], .every, false, false, true⟩ ∧
      ofLiteral ['/', '/'] = .ok ⟨[], .first, false, false, false⟩ ∧
      (∃ error, ofLiteral ['/'] = .error error) ∧
      ∃ error, ofLiteral ['/', 'a', '/', 'g', 'x', 'i'] = .error error := by
  obtain ⟨hrefused, hplain, hclosed, -⟩ := ofLiteral_grammar
  have hletter : ∃ c ∈ ['g', 'x', 'i'], c ∉ ['g', 'i', 'm', 's', 'u'] := ⟨'x', by simp⟩
  refine ⟨hplain _ (by simp), ?_, hclosed [] [] (by simp), ?_, ?_⟩
  · exact hclosed ['a', '/', 'b'] ['s', 'g', 'u', 's'] (by simp)
  · exact (hrefused _).2 ⟨[], rfl, .inl (by simp)⟩
  · exact (hrefused _).2 ⟨_, rfl, .inr ⟨['a'], _, rfl, by simp, hletter⟩⟩

end PatternRule
end ShellGuard
