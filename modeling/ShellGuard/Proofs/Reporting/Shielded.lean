import Mathlib.Data.List.Chain
import Mathlib.Data.List.Infix
import ShellGuard.Json.Codec
import ShellGuard.Proofs.Counting
import ShellGuard.Proofs.Reporting.Commands

/-!
# Shielded — texts that cannot spell the sign of a command

An agent acts on the sign of a command wherever it stands in the output.  In the sign a number sign
stands behind another one, and the bracket behind a letter.  In text where one of the two stands
only behind a backslash, a backtick or a quote, the sign does not occur.  That property is kept by
string literals and their escapes, and by texts that are put one behind another.

## Main definitions

* `Text.Linked`, `Text.Shielded` — text in which a character stands only behind a shield.
* `Text.occurrences` — how often one text stands in another.
* `LoggingCommand.IsMark`, `LoggingCommand.Unmarked` — the two characters that give the sign away.
* `Outcome.Sealed` — outcomes with a shielded text, and symbols that keep it so.

## Main statements

* `LoggingCommand.occurrences_sign_of_linked` — the sign does not occur in such text.
* `Json.shielded_quoted` — a string literal keeps the property.
* `Outcome.Sealed.encode` — so does an outcome as JSON.
* `Record.exists_command_eq` — a command is the sign with shielded text behind it.
-/

namespace ShellGuard

/-! ## Texts -/

namespace Text

/-- The characters that shield the one behind them: escape characters and the quote of literals. -/
def shields : List Char :=
  ['\\', '\x60', '"']

/-- Does the character stand only behind a shield, unless it is in front? -/
def Linked (c : Char) (t : Text) : Prop :=
  t.IsChain fun a b => b = c → a ∈ shields

/-- Does the character stand only behind a shield, whatever stands in front of the text? -/
structure Shielded (c : Char) (t : Text) : Prop where
  linked : Linked c t
  head : t.head? ≠ some c

variable {c : Char} {s t : Text}

theorem linked_singleton (c a : Char) : Linked c [a] :=
  List.IsChain.singleton a

theorem Linked.append (hs : Linked c s) (ht : Shielded c t) : Linked c (s ++ t) := by
  apply List.IsChain.append hs ht.linked
  intro a _ b hb heq
  rw [heq] at hb
  exact absurd hb ht.head

theorem Linked.cons_shield {a : Char} (ht : Linked c t) (ha : a ∈ shields) : Linked c (a :: t) :=
  List.IsChain.cons ht fun _ _ _ => ha

theorem shielded_of_not_mem (h : c ∉ t) : Shielded c t := by
  refine ⟨?_, fun hhead => h (List.mem_of_head? hhead)⟩
  apply List.Pairwise.isChain
  apply List.pairwise_of_forall_mem_list
  intro a _ b hb heq
  exact absurd (heq ▸ hb) h

theorem Shielded.append (hs : Shielded c s) (ht : Shielded c t) : Shielded c (s ++ t) := by
  refine ⟨hs.linked.append ht, ?_⟩
  cases s with
  | nil => exact ht.head
  | cons a s => exact hs.head

theorem shielded_flatten {parts : List Text} (h : ∀ part ∈ parts, Shielded c part) :
    Shielded c parts.flatten := by
  induction parts with
  | nil => exact shielded_of_not_mem List.not_mem_nil
  | cons part parts ih =>
    rcases List.forall_mem_cons.1 h with ⟨hpart, hparts⟩
    exact hpart.append (ih hparts)

theorem shielded_joinWith {sep : Text} {parts : List Text} (hsep : Shielded c sep)
    (h : ∀ part ∈ parts, Shielded c part) : Shielded c (joinWith sep parts) := by
  match parts with
  | [] => exact shielded_of_not_mem List.not_mem_nil
  | [part] => simpa using h
  | part :: next :: rest =>
    rcases List.forall_mem_cons.1 h with ⟨hpart, hrest⟩
    rw [joinWith_cons_cons]
    exact (hpart.append hsep).append (shielded_joinWith hsep hrest)

/-! ## Occurrences -/

def occurrences (part t : Text) : Nat :=
  t.tails.countP part.isPrefixOf

theorem occurrences_cons (part : Text) (c : Char) (t : Text) :
    occurrences part (c :: t) =
      occurrences part t + if part.isPrefixOf (c :: t) then 1 else 0 := by
  unfold occurrences
  rw [List.tails_cons, List.countP_cons]

theorem occurrences_eq_zero {part : Text} (h : ¬ part <:+: t) : occurrences part t = 0 := by
  unfold occurrences
  rw [List.countP_eq_zero]
  intro tail htail hprefix
  apply h
  have hsuffix : tail <:+ t := (List.mem_tails tail t).1 htail
  exact (List.isPrefixOf_iff_prefix.1 hprefix).isInfix.trans hsuffix.isInfix

end Text

open Text

/-! ## The sign -/

namespace LoggingCommand

/-- Is the character one that stands in the sign, and behind no shield there? -/
inductive IsMark : Char → Prop
  | number : IsMark '#'
  | bracket : IsMark '['

def Unmarked (t : Text) : Prop :=
  '#' ∉ t ∧ '[' ∉ t

instance (t : Text) : Decidable (Unmarked t) :=
  inferInstanceAs (Decidable (_ ∧ _))

variable {c : Char} {t : Text}

theorem not_linked_sign (hc : IsMark c) : ¬ Linked c sign := by
  unfold Linked
  cases hc <;> decide

/-- Where one of these characters is linked, the sign does not occur. -/
theorem occurrences_sign_of_linked (hc : IsMark c) (h : Linked c t) : occurrences sign t = 0 := by
  apply occurrences_eq_zero
  intro hsign
  have hlinked : Linked c sign := List.IsChain.infix h hsign
  exact not_linked_sign hc hlinked

theorem IsMark.not_mem (hc : IsMark c) (ht : Unmarked t) : c ∉ t := by
  cases hc with
  | number => exact ht.1
  | bracket => exact ht.2

theorem IsMark.shielded (hc : IsMark c) (ht : Unmarked t) : Shielded c t :=
  shielded_of_not_mem (hc.not_mem ht)

/-- No part of the sign begins the sign again, so behind it the sign is looked for anew. -/
theorem occurrences_sign_append (t : Text) :
    occurrences sign (sign ++ t) = occurrences sign t + 1 := by
  simp [sign, occurrences_cons]

end LoggingCommand

open LoggingCommand

variable {c : Char}

/-! ## JSON -/

namespace Json

theorem escaped_of_isMark (hc : IsMark c) : escaped c = [c] := by
  cases hc <;> decide

theorem ne_hexDigit (hc : IsMark c) {n : Nat} (hn : n < 16) : c ≠ hexDigit n := by
  have hall : ∀ n < 16, '#' ≠ hexDigit n ∧ '[' ≠ hexDigit n := by decide
  cases hc with
  | number => exact (hall n hn).1
  | bracket => exact (hall n hn).2

/-- No other character is written with a mark of the sign in it. -/
theorem not_mem_escaped (hc : IsMark c) {a : Char} (hne : a ≠ c) : c ∉ escaped a := by
  unfold escaped
  split_ifs with hquote hslash hback htab hline hform hreturn hcontrol
  · exact hc.not_mem (by decide)
  · exact hc.not_mem (by decide)
  · exact hc.not_mem (by decide)
  · exact hc.not_mem (by decide)
  · exact hc.not_mem (by decide)
  · exact hc.not_mem (by decide)
  · exact hc.not_mem (by decide)
  · have hletters : c ∉ ['\\', 'u', '0', '0'] := hc.not_mem (by decide)
    have hhigh : c ≠ hexDigit (a.toNat / 16) := ne_hexDigit hc (by omega)
    have hlow : c ≠ hexDigit (a.toNat % 16) := ne_hexDigit hc (by omega)
    exact List.not_mem_append hletters (by simp [hhigh, hlow])
  · simpa using hne.symm

theorem linked_escaped (hc : IsMark c) (a : Char) : Linked c (escaped a) := by
  rcases eq_or_ne a c with rfl | hne
  · rw [escaped_of_isMark hc]
    exact linked_singleton a a
  · exact (shielded_of_not_mem (not_mem_escaped hc hne)).linked

/-- A shield is written with itself at the end. -/
theorem getLast?_escaped {a : Char} (ha : a ∈ shields) : (escaped a).getLast? = some a := by
  simp only [shields, List.mem_cons, List.not_mem_nil, or_false] at ha
  rcases ha with rfl | rfl | rfl <;> decide

/-- Escapes keep what stands in front of a mark of the sign a shield. -/
theorem linked_flatMap_escaped (hc : IsMark c) {t : Text} (h : Linked c t) :
    Linked c (t.flatMap escaped) := by
  have hne : [] ∉ t.map escaped := by
    intro hmem
    obtain ⟨a, -, ha⟩ := List.mem_map.1 hmem
    exact escaped_ne_nil a ha
  rw [List.flatMap_def]
  refine (List.isChain_flatten hne).2 ⟨?_, ?_⟩
  · intro part hpart
    obtain ⟨a, -, rfl⟩ := List.mem_map.1 hpart
    exact linked_escaped hc a
  · rw [List.isChain_map]
    refine h.imp ?_
    intro a b hab x hx y hy heq
    -- only the mark itself is written with the mark in front
    have hb : b = c := by
      by_contra hbc
      exact not_mem_escaped hc hbc (List.mem_of_head? (heq ▸ hy))
    have hshield : a ∈ shields := hab hb
    rw [getLast?_escaped hshield] at hx
    cases hx
    exact hshield

theorem shielded_quoted (hc : IsMark c) {t : Text} (h : Linked c t) :
    Shielded c (quoted t) := by
  have hquote : Shielded c ['"'] := hc.shielded (by decide)
  have hinner : Linked c (t.flatMap escaped ++ ['"']) := (linked_flatMap_escaped hc h).append hquote
  refine ⟨hinner.cons_shield (by decide), ?_⟩
  exact hquote.head

theorem shielded_natural (hc : IsMark c) (n : Nat) : Shielded c (render (.natural n)) := by
  apply shielded_of_not_mem
  intro hmem
  have hdigit : c.isDigit := isDigit_of_mem_ofNat hmem
  cases hc <;> exact absurd hdigit (by decide)

/-- An object of linked names and shielded values is shielded. -/
theorem shielded_object (hc : IsMark c) {fields : List (Option Text × Json)}
    (h : ∀ field ∈ fields, Linked c (field.1.getD []) ∧ Shielded c field.2.render) :
    Shielded c (Json.object fields).render := by
  have hparts : ∀ part ∈ renderFields fields, Shielded c part := by
    induction fields with
    | nil => exact List.forall_mem_nil _
    | cons field fields ih =>
      rcases List.forall_mem_cons.1 h with ⟨⟨hname, hvalue⟩, hfields⟩
      have hcolon : Shielded c [':'] := hc.shielded (by decide)
      have hfield := ((shielded_quoted hc hname).append hcolon).append hvalue
      exact List.forall_mem_cons.2 ⟨hfield, ih hfields⟩
  have hcomma : Shielded c [','] := hc.shielded (by decide)
  have hopen : Shielded c ['\x7b'] := hc.shielded (by decide)
  have hclose : Shielded c ['\x7d'] := hc.shielded (by decide)
  unfold render
  exact (hopen.append (shielded_joinWith hcomma hparts)).append hclose

/-- An object of two fields with fixed names. -/
theorem shielded_pair (hc : IsMark c) {a b : Text} (ha : Unmarked a) (hb : Unmarked b)
    {x y : Json} (hx : Shielded c x.render) (hy : Shielded c y.render) :
    Shielded c (Json.object [field a x, field b y]).render := by
  apply shielded_object hc
  intro found hfound
  rcases List.mem_pair.1 hfound with rfl | rfl
  · exact ⟨(hc.shielded ha).linked, hx⟩
  · exact ⟨(hc.shielded hb).linked, hy⟩

end Json

/-! ## Records and outcomes -/

def Record.Linked (c : Char) (r : Record) : Prop :=
  ∀ entry ∈ r.counts.entries, Text.Linked c entry.1

/-- Is the text shielded, and the character only behind a shield in every symbol? -/
structure Outcome.Sealed (c : Char) (o : Outcome) : Prop where
  text : Shielded c o.text
  symbols : ∀ r, o.record? = some r → r.Linked c

namespace Record

variable {r : Record}

theorem Linked.counts (hc : IsMark c) (h : r.Linked c) :
    Shielded c r.counts.toJson.render := by
  apply Json.shielded_object hc
  intro field hfield
  obtain ⟨entry, hentry, rfl⟩ := List.mem_map.1 hfield
  exact ⟨h entry hentry, Json.shielded_natural hc entry.2⟩

theorem Linked.toJson (hc : IsMark c) (h : r.Linked c) : Shielded c r.toJson.render :=
  Json.shielded_pair hc (by decide) (by decide) (h.counts hc) (Json.shielded_natural hc r.total)

theorem Linked.commandBody (hc : IsMark c) (h : r.Linked c) :
    Shielded c r.commandBody.render :=
  Json.shielded_pair hc (by decide) (by decide) (Json.shielded_natural hc r.total) (h.counts hc)

/-- The record of linked symbols is linked. -/
theorem linked_of_ofSymbols? {symbols : List Text}
    (hsymbols : ∀ symbol ∈ symbols, Text.Linked c symbol) (h : ofSymbols? symbols = some r) :
    r.Linked c := by
  rw [eq_of_ofSymbols? h]
  apply Tally.forall_mem_addAll (motive := fun entry => Text.Linked c entry.1)
  · intro symbol hsymbol _
    exact hsymbols symbol hsymbol
  · exact List.forall_mem_nil _

/--
A command is the sign with text behind it in which a bracket stands only behind a shield, if none
stands in the area and in the feature.
-/
theorem exists_command_eq (h : r.Linked '[') {area feature : Text} (harea : '[' ∉ area)
    (hfeature : '[' ∉ feature) :
    ∃ rest, Shielded '[' rest ∧ r.command area feature = LoggingCommand.sign ++ rest := by
  have hproperties : ∀ property ∈ properties area feature, Shielded '[' property := by
    intro property hproperty
    apply shielded_of_not_mem
    rcases List.mem_pair.1 hproperty with rfl | rfl
    · exact List.not_mem_append (by decide) fun hmem => harea (List.mem_filter.1 hmem).1
    · exact List.not_mem_append (by decide) fun hmem => hfeature (List.mem_filter.1 hmem).1
  have hsemicolon : Shielded '[' [';'] := shielded_of_not_mem (by decide)
  have hbracket : Shielded '[' [']'] := shielded_of_not_mem (by decide)
  have hheader := shielded_joinWith hsemicolon hproperties
  have hbody : Shielded '[' r.commandBody.render := h.commandBody .bracket
  refine ⟨_, hheader.append (hbracket.append hbody), ?_⟩
  rw [command_eq, List.append_assoc]
  rfl

end Record

namespace Outcome

/-- Edits that write shielded text and count linked symbols make a sealed outcome. -/
theorem sealed_ofEdits {edits : List Edit} (htarget : Shielded c (Edit.target edits))
    (hsymbols : ∀ symbol ∈ Edit.symbols edits, Text.Linked c symbol) :
    (ofEdits edits).Sealed c :=
  ⟨htarget, fun _ hr => Record.linked_of_ofSymbols? hsymbols hr⟩

theorem Sealed.encode (hc : IsMark c) {o : Outcome} (h : o.Sealed c) :
    Shielded c (Jsonable.encode o) := by
  have htext : Shielded c (Json.ofText o.text).render := Json.shielded_quoted hc h.text.linked
  unfold Jsonable.encode
  apply Json.shielded_pair hc (by decide) (by decide) htext
  cases hrecord : o.record? with
  | none => exact hc.shielded (by decide)
  | some r => exact (h.symbols r hrecord).toJson hc

end Outcome

end ShellGuard
