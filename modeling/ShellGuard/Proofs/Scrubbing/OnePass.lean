import ShellGuard.Proofs.Scrubbing.Acceptance
import ShellGuard.Proofs.Scrubbing.Protection
import ShellGuard.Proofs.Scrubbing.Stretches

/-!
# OnePass — the default rule without cutting the arguments

A scrubber cuts its arguments at the escape pairs and looks one character back in each segment.
The same edits come from a single pass over the whole text that carries one bit: is the next
character escaped?

## Main definitions

* `Marker.Leads` — the pass copies a marker here.
* `passEdits` — what the pass does to each stretch of the text.

## Main statements

* `allowEdits_eq_passEdits` — inside a stretch without pairs, looking back is the bit.
* `passEdits_append_cons` — the pass may be cut in front of any escape character.
* `edits_agree_passEdits` — the scrubber and the pass write the same text and count the same
  symbols.
-/

namespace ShellGuard

/-! ## Where a marker is copied -/

/-- Does the text start with the marker, and is there a marker at all? -/
def Marker.Leads (marker t : Text) : Prop :=
  marker ≠ [] ∧ marker <+: t

instance (marker t : Text) : Decidable (Marker.Leads marker t) :=
  inferInstanceAs (Decidable (_ ∧ _))

namespace Marker

variable {marker : Text}

theorem Leads.length_sub_lt {t : Text} (h : Leads marker t) :
    t.length - marker.length < t.length := by
  have hpos : 0 < marker.length := List.length_pos_iff.2 h.1
  have hle : marker.length ≤ t.length := h.2.length_le
  omega

/-- A text with a marker in front, seen from its first character. -/
theorem exists_cons_leads (h : marker ≠ []) (t : Text) :
    ∃ c u, marker ++ t = c :: u ∧ Leads marker (c :: u) ∧ (c :: u).drop marker.length = t := by
  have hlead : Leads marker (marker ++ t) := ⟨h, List.prefix_append marker t⟩
  have hdrop : (marker ++ t).drop marker.length = t := List.drop_left
  have hne : marker ++ t ≠ [] := by simp [h]
  obtain ⟨c, u, hcons⟩ := List.exists_cons_of_ne_nil hne
  rw [hcons] at hlead hdrop
  exact ⟨c, u, hcons, hlead, hdrop⟩

/-- An induction that follows a pass: a marker is stepped over as a whole. -/
@[elab_as_elim]
theorem pass_induction {motive : Text → Prop} (marker : Text) (nil : motive [])
    (mark : ∀ t, marker ≠ [] → motive t → motive (marker ++ t))
    (char : ∀ c t, ¬ Leads marker (c :: t) → motive t → motive (c :: t)) (t : Text) :
    motive t := by
  -- a marker takes several characters at once, so the induction is on the length
  induction hlen : t.length using Nat.strong_induction_on generalizing t with
  | _ n ih =>
    cases t with
    | nil => exact nil
    | cons c t =>
      by_cases h : Leads marker (c :: t)
      · rcases h with ⟨hne, rest, hrest⟩
        have hpos : 0 < marker.length := List.length_pos_iff.2 hne
        have hlt : rest.length < n := by
          rw [← hlen, ← hrest, List.length_append]
          omega
        rw [← hrest]
        exact mark rest hne (ih rest.length hlt rest rfl)
      · have hlt : t.length < n := by simp [← hlen]
        exact char c t h (ih t.length hlt t rfl)

theorem leads_append_cons {e : Char} (he : e ∉ marker) (u rest : Text) :
    Leads marker (u ++ e :: rest) ↔ Leads marker u := by
  constructor
  · rintro ⟨hne, hmarker⟩
    refine ⟨hne, ?_⟩
    rcases List.prefix_or_prefix_of_prefix hmarker (List.prefix_append u (e :: rest)) with h | h
    · exact h
    · -- a marker longer than `u` would go on with the escape character
      rcases h with ⟨more, rfl⟩
      have hmore : more <+: e :: rest := by simpa using hmarker
      cases more with
      | nil => simp
      | cons d more =>
        have hd : d = e := (List.cons_prefix_cons.1 hmore).1
        exact absurd (by simp [hd]) he
  · rintro ⟨hne, hmarker⟩
    exact ⟨hne, hmarker.trans (List.prefix_append u _)⟩

end Marker

namespace Scrubber

open EscapeConvention Marker

variable {e : Char} {marker : Text}

/-! ## The default rule, equation by equation -/

theorem lead?_eq_none {t : Text} (h : ¬ Leads marker t) :
    (if marker = [] then none else Text.dropLead? marker t) = none := by
  by_cases hne : marker = []
  · simp [hne]
  · have hnone : Text.dropLead? marker t = none := by
      refine Option.eq_none_iff_forall_ne_some.2 ?_
      intro rest hrest
      exact h ⟨hne, rest, (Text.dropLead?_eq_some_iff.1 hrest).symm⟩
    simp [hne, hnone]

theorem allowEdits_marker (h : marker ≠ []) (before : Option Char) (t : Text) :
    allowEdits e marker before (marker ++ t) =
      .keep marker :: allowEdits e marker marker.getLast? t := by
  have hlead : (if marker = [] then none else Text.dropLead? marker (marker ++ t)) = some t := by
    simp [h, Text.dropLead?_append]
  obtain ⟨c, u, hcons, -, -⟩ := exists_cons_leads h t
  rw [hcons] at hlead ⊢
  rw [allowEdits]
  split
  · next rest hrest =>
    rw [hlead] at hrest
    cases hrest
    rfl
  · next hrest =>
    rw [hlead] at hrest
    cases hrest

theorem allowEdits_char {c : Char} {t : Text} (h : ¬ Leads marker (c :: t))
    (before : Option Char) :
    allowEdits e marker before (c :: t) =
      charEdit e marker before c :: allowEdits e marker (some c) t := by
  rw [allowEdits]
  split
  · next rest hrest =>
    rw [lead?_eq_none h] at hrest
    cases hrest
  · rfl

/-! ## The pass -/

def passEdit (marker : Text) (escaped : Bool) (c : Char) : Edit :=
  if Shell.isAllowed c || escaped then .keepChar c else .replace [c] marker

/--
What a single pass does to a text: a marker is copied, and any other character stays if it is
allowed or escaped.  An escape character escapes the next one unless it is escaped itself.
-/
def passEdits (e : Char) (marker : Text) : (escaped : Bool) → Text → List Edit
  | _, [] => []
  | escaped, c :: t =>
    if h : Leads marker (c :: t) then
      have : (c :: t).length - marker.length < (c :: t).length := h.length_sub_lt
      .keep marker :: passEdits e marker false ((c :: t).drop marker.length)
    else passEdit marker escaped c :: passEdits e marker (c = e && !escaped) t
  termination_by _ t => t.length

variable {escaped : Bool}

@[simp] theorem passEdits_nil : passEdits e marker escaped [] = [] := by
  rw [passEdits]

theorem passEdits_marker (h : marker ≠ []) (t : Text) :
    passEdits e marker escaped (marker ++ t) = .keep marker :: passEdits e marker false t := by
  obtain ⟨c, u, hcons, hlead, hdrop⟩ := exists_cons_leads h t
  rw [hcons, passEdits, dif_pos hlead, hdrop]

theorem passEdits_char {c : Char} {t : Text} (h : ¬ Leads marker (c :: t)) :
    passEdits e marker escaped (c :: t) =
      passEdit marker escaped c :: passEdits e marker (c = e && !escaped) t := by
  rw [passEdits, dif_neg h]

theorem passEdits_escape (hallowed : Shell.isAllowed e) (he : e ∉ marker) (t : Text) :
    passEdits e marker escaped (e :: t) = .keepChar e :: passEdits e marker (!escaped) t := by
  have hlead : ¬ Leads marker (e :: t) := by
    rintro ⟨hne, hmarker⟩
    have hnil : Leads marker [] := (leads_append_cons he [] t).1 ⟨hne, hmarker⟩
    exact hne (List.prefix_nil.1 hnil.2)
  simp [passEdits_char hlead, passEdit, hallowed]

/-- Inside a stretch without pairs, looking one character back is the bit of the pass. -/
theorem allowEdits_eq_passEdits (he : e ∉ marker) {t : Text} (before : Option Char)
    (ht : Unpaired e t) (hbefore : before = some e → t.head? ≠ some e) :
    allowEdits e marker before t = passEdits e marker (before = some e) t := by
  induction t using pass_induction marker generalizing before with
  | nil => simp [allowEdits]
  | mark t hne ih =>
    -- a marker ends with some other character, which protects nothing
    have hlast : marker.getLast? ≠ some e := by
      intro heq
      exact he (List.mem_of_getLast? heq)
    have hunpaired : Unpaired e t := List.IsChain.right_of_append ht
    have hrest := ih marker.getLast? hunpaired (fun heq => absurd heq hlast)
    rw [allowEdits_marker hne, passEdits_marker hne, hrest, decide_eq_false hlast]
  | char c t hlead ih =>
    rcases List.isChain_cons.1 ht with ⟨hhead, ht⟩
    have hnext : some c = some e → t.head? ≠ some e := by
      intro heq hd
      exact hhead e hd ⟨Option.some.inj heq, rfl⟩
    -- no escape character is escaped here: that would be a pair
    have hbit : decide (some c = some e) = (decide (c = e) && !decide (before = some e)) := by
      by_cases hc : c = e
      · have hne : before ≠ some e := by
          intro heq
          exact hbefore heq (by simp [hc])
        simp [hc, hne]
      · simp [hc]
    have hedit : charEdit e marker before c = passEdit marker (before = some e) c := rfl
    rw [allowEdits_char hlead, passEdits_char hlead, ih (some c) ht hnext, hbit, hedit]

/-- The pass may be cut in front of any escape character. -/
theorem passEdits_append_cons (he : e ∉ marker) (u rest : Text) :
    passEdits e marker escaped (u ++ e :: rest) =
      passEdits e marker escaped u ++
        passEdits e marker (escapesNext e escaped u) (e :: rest) := by
  induction u using pass_induction marker generalizing escaped with
  | nil => simp
  | mark u hne ih =>
    have hbit : escapesNext e escaped (marker ++ u) = escapesNext e false u := by
      rw [escapesNext_append, escapesNext_eq_false_of_not_mem hne he]
    simp [passEdits_marker hne, ih, hbit]
  | char c u hlead ih =>
    have hlead' : ¬ Leads marker (c :: (u ++ e :: rest)) := by
      rwa [← List.cons_append, leads_append_cons he]
    simp [passEdits_char hlead', passEdits_char hlead, ih]

/-! ## The scrubber and the pass -/

def Agree (a b : List Edit) : Prop :=
  Edit.target a = Edit.target b ∧ Edit.symbols a = Edit.symbols b

theorem Agree.append {a b a' b' : List Edit} (h : Agree a b) (h' : Agree a' b') :
    Agree (a ++ a') (b ++ b') := by
  refine ⟨?_, ?_⟩
  · simp [h.1, h'.1]
  · simp [h.2, h'.2]

/-- Separated parts, each by itself and with the pairs between them, are one pass over the whole. -/
theorem intercalate_agree_passEdits (hallowed : Shell.isAllowed e) (he : e ∉ marker)
    {parts : List Text} (hparts : Separated e parts) :
    Agree (List.intercalate [.keep [e, e]] (parts.map (allowEdits e marker none)))
      (passEdits e marker false (Text.joinWith [e, e] parts)) := by
  have hpart : ∀ part, Unpaired e part →
      allowEdits e marker none part = passEdits e marker false part := by
    intro part h
    simpa using allowEdits_eq_passEdits he none h (by simp)
  match parts with
  | [] => exact ⟨by simp [Text.joinWith], by simp [Text.joinWith]⟩
  | [last] =>
    have hlast := hpart last hparts
    simp [hlast, Agree]
  | part :: next :: rest =>
    rcases hparts with ⟨hunpaired, hend, hrest⟩
    have ih := intercalate_agree_passEdits hallowed he hrest
    -- the pass comes to the pair with the bit cleared, since the part ends with something else
    have hbit : escapesNext e false part = false := by
      rcases eq_or_ne part [] with rfl | hne
      · rfl
      · exact escapesNext_eq_false hne hend
    have hpair : Agree [.keep [e, e]] [.keepChar e, .keepChar e] := ⟨rfl, rfl⟩
    have hpass : passEdits e marker false (Text.joinWith [e, e] (part :: next :: rest)) =
        passEdits e marker false part ++ [.keepChar e, .keepChar e] ++
          passEdits e marker false (Text.joinWith [e, e] (next :: rest)) := by
      calc
        passEdits e marker false (Text.joinWith [e, e] (part :: next :: rest))
            = passEdits e marker false
                (part ++ e :: e :: Text.joinWith [e, e] (next :: rest)) := by simp
        _ = passEdits e marker false part ++
              passEdits e marker false (e :: e :: Text.joinWith [e, e] (next :: rest)) := by
            rw [passEdits_append_cons he, hbit]
        _ = passEdits e marker false part ++ [.keepChar e, .keepChar e] ++
              passEdits e marker false (Text.joinWith [e, e] (next :: rest)) := by
            simp [passEdits_escape hallowed he]
    rw [hpass, List.map_cons, List.map_cons, List.intercalate_cons_cons, hpart part hunpaired]
    exact (Agree.append ⟨rfl, rfl⟩ hpair).append ih

/-- Without a pattern the scrubber does what one pass over the whole arguments does. -/
theorem edits_agree_passEdits (s : Scrubber) (hpattern : s.pattern? = none) (arguments : Text) :
    Agree (s.edits arguments) (passEdits s.convention.char s.marker false arguments) := by
  have hsegment : s.segmentEdits = allowEdits s.convention.char s.marker none := by
    funext segment
    simp [segmentEdits, hpattern]
  have hjoin : Text.joinWith [s.convention.char, s.convention.char]
      (s.convention.segments arguments) = arguments := s.convention.joinWith_segments arguments
  have hagree := intercalate_agree_passEdits s.convention.isAllowed_char
    (not_mem_of_fault?_eq_none s.marker_safe s.convention)
    (s.convention.separated_segments arguments)
  rw [hjoin, ← hsegment] at hagree
  exact hagree

end Scrubber

end ShellGuard
