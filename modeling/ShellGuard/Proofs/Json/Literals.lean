import ShellGuard.Json.Basic
import ShellGuard.Json.Reader
import ShellGuard.Proofs.Lists
import Mathlib.Tactic.SplitIfs

/-!
# Literals — strings and numbers are read as they were written

What stands for a character in a string literal is read as that character, whether it stands for
itself, behind a backslash or as a code unit; so a literal is read to its closing quote and no
further.  A number is written without leading zeros, and is read up to the first character that
could not belong to it.

## Main definitions

* `Json.EndsNumber` — texts that do not go on with a number.
* `Json.ControlFree` — texts without control characters.

## Main statements

* `Json.readString?_quoted` — a text is read from its string literal, whatever stands behind it.
* `Json.readNumber?_ofNat` — a number is read from its digits, in front of a text that ends it.
* `Json.controlFree_quoted` — a string literal holds no control character.
-/

namespace ShellGuard
namespace Json

/-! ## Strings -/

def consRead (c : Char) (read : Option Text × Text) : Option Text × Text :=
  (read.1.map (c :: ·), read.2)

theorem readString?_plain {c : Char} (hquote : c ≠ '"') (hslash : c ≠ '\\')
    (hc : 0x20 ≤ c.toNat) (fuel : Nat) (t : Text) :
    readString? (fuel + 1) (c :: t) = (readString? fuel t).map (consRead c) := by
  have hraw : ¬ (c = '\\' ∨ c.toNat < 0x20) := by
    rintro (heq | hlt)
    · exact hslash heq
    · omega
  rw [readString?]
  · rw [if_neg hraw]
    cases readString? fuel t <;> rfl
  · exact hquote
  · intro s heq
    exact absurd heq hslash
  · intro d s heq
    exact absurd heq hslash

theorem readString?_simple {letter c : Char} (hletter : simpleEscape? letter = some c)
    (fuel : Nat) (t : Text) :
    readString? (fuel + 1) ('\\' :: letter :: t) = (readString? fuel t).map (consRead c) := by
  have hu : letter ≠ 'u' := by
    rintro rfl
    cases hletter
  rw [readString?]
  · rw [hletter]
    cases readString? fuel t <;> rfl
  · exact hu

theorem hexDigit?_hexDigit {n : Nat} (h : n < 16) : CharSet.hexDigit? (hexDigit n) = some n := by
  have hall : ∀ n < 16, CharSet.hexDigit? (hexDigit n) = some n := by decide
  exact hall n h

/-- The code unit of a control is that of a character by itself. -/
theorem readEscapedCode?_control {c : Char} (h : c.toNat < 0x20) (t : Text) :
    readEscapedCode? ('0' :: '0' :: hexDigit (c.toNat / 16) :: hexDigit (c.toNat % 16) :: t) =
      some (some c, t) := by
  have hunit : readCodeUnit?
      ('0' :: '0' :: hexDigit (c.toNat / 16) :: hexDigit (c.toNat % 16) :: t) =
        some (c.toNat, t) := by
    have hzero : CharSet.hexDigit? '0' = some 0 := by decide
    have hhigh := hexDigit?_hexDigit (n := c.toNat / 16) (by omega)
    have hlow := hexDigit?_hexDigit (n := c.toNat % 16) (by omega)
    have hsum : c.toNat / 16 * 16 + c.toNat % 16 = c.toNat := by omega
    simp [readCodeUnit?, hzero, hhigh, hlow, hsum]
  have hhigh : isHighSurrogate c.toNat = false := by
    simp only [isHighSurrogate, Bool.and_eq_false_iff, decide_eq_false_iff_not]
    omega
  have hlow : isLowSurrogate c.toNat = false := by
    simp only [isLowSurrogate, Bool.and_eq_false_iff, decide_eq_false_iff_not]
    omega
  simp [readEscapedCode?, hunit, hhigh, hlow]

theorem readString?_control {c : Char} (h : c.toNat < 0x20) (fuel : Nat) (t : Text) :
    readString? (fuel + 1)
        ('\\' :: 'u' :: '0' :: '0' :: hexDigit (c.toNat / 16) :: hexDigit (c.toNat % 16) :: t) =
      (readString? fuel t).map (consRead c) := by
  rw [readString?, readEscapedCode?_control h]
  simp only [Option.bind_eq_bind, Option.bind_some]
  cases readString? fuel t with
  | none => rfl
  | some read =>
    rcases read with ⟨_ | text, rest⟩ <;> rfl

/-- What stands for a character in a string is read as that character. -/
theorem readString?_escaped (c : Char) (fuel : Nat) (t : Text) :
    readString? (fuel + 1) (escaped c ++ t) = (readString? fuel t).map (consRead c) := by
  unfold escaped
  split_ifs with hquote hslash hback htab hline hform hreturn hcontrol
  · subst c
    exact readString?_simple rfl fuel t
  · subst c
    exact readString?_simple rfl fuel t
  · subst c
    exact readString?_simple rfl fuel t
  · subst c
    exact readString?_simple rfl fuel t
  · subst c
    exact readString?_simple rfl fuel t
  · subst c
    exact readString?_simple rfl fuel t
  · subst c
    exact readString?_simple rfl fuel t
  · exact readString?_control hcontrol fuel t
  · exact readString?_plain hquote hslash (Nat.le_of_not_lt hcontrol) fuel t

theorem escaped_ne_nil (c : Char) : escaped c ≠ [] := by
  unfold escaped
  split_ifs <;> exact List.cons_ne_nil _ _

theorem readString?_flatMap_escaped (t rest : Text) {fuel : Nat} (h : t.length < fuel) :
    readString? fuel (t.flatMap escaped ++ '"' :: rest) = some (some t, rest) := by
  obtain ⟨fuel, rfl⟩ := Nat.exists_eq_add_one_of_ne_zero (Nat.ne_zero_of_lt h)
  induction t generalizing fuel with
  | nil => rfl
  | cons c t ih =>
    obtain ⟨fuel, rfl⟩ :=
      Nat.exists_eq_add_one_of_ne_zero (Nat.ne_zero_of_lt (Nat.lt_of_succ_lt_succ h))
    rw [List.flatMap_cons, List.append_assoc, readString?_escaped,
      ih fuel (Nat.lt_of_succ_lt_succ h)]
    rfl

/-- A text is read from its literal up to the closing quote, with as much fuel as there is text. -/
theorem readString?_quoted (t rest : Text) :
    ∃ u, quoted t ++ rest = '"' :: u ∧ readString? (u.length + 1) u = some (some t, rest) := by
  refine ⟨t.flatMap escaped ++ '"' :: rest, by simp [quoted], ?_⟩
  have hlength := length_le_flatMap escaped_ne_nil t
  refine readString?_flatMap_escaped t rest ?_
  rw [List.length_append]
  omega

/-! ## Numbers -/

/-- Does a number end where the text begins? -/
def EndsNumber (rest : Text) : Prop :=
  ∀ c ∈ rest.head?, c.isDigit = false ∧ c ≠ '.' ∧ c ≠ 'e' ∧ c ≠ 'E'

theorem endsNumber_nil : EndsNumber [] := by
  intro c hc
  cases hc

theorem isDigit_of_mem_ofNat {n : Nat} {c : Char} (h : c ∈ Text.ofNat n) : c.isDigit :=
  Nat.isDigit_of_mem_toDigits (by decide) (by decide) h

theorem ofNat_ne_nil (n : Nat) : Text.ofNat n ≠ [] :=
  Nat.toDigits_ne_nil

theorem exists_cons_ofNat (n : Nat) : ∃ c digits, Text.ofNat n = c :: digits ∧ c.isDigit := by
  obtain ⟨c, digits, hcons⟩ := List.exists_cons_of_ne_nil (ofNat_ne_nil n)
  refine ⟨c, digits, hcons, isDigit_of_mem_ofNat (n := n) ?_⟩
  rw [hcons]
  exact List.mem_cons_self

theorem decimal_ofNat (n : Nat) : decimal (Text.ofNat n) = n := by
  have hdigits : Nat.ofDigitChars 10 (Text.ofNat n) 0 = n := Nat.ofDigitChars_ten_toDigits
  rw [Nat.ofDigitChars_eq_foldl] at hdigits
  simpa [decimal, Nat.mul_comm] using hdigits

/-- No number but zero is written with a zero in front. -/
theorem ofNat_eq_of_head? (n : Nat) (h : (Text.ofNat n).head? = some '0') :
    Text.ofNat n = ['0'] := by
  induction n using Nat.strongRecOn with
  | _ n ih =>
    by_cases hsmall : n < 10
    · have hdigit : Text.ofNat n = [n.digitChar] := Nat.toDigits_of_lt_base hsmall
      rw [hdigit] at h ⊢
      simpa using h
    · have hsplit : Text.ofNat n = Text.ofNat (n / 10) ++ [(n % 10).digitChar] :=
        Nat.toDigits_of_base_le (by decide) (Nat.le_of_not_lt hsmall)
      have hfirst : (Text.ofNat (n / 10)).head? = some '0' := by
        obtain ⟨c, digits, hcons, -⟩ := exists_cons_ofNat (n / 10)
        rw [hsplit, hcons] at h
        rw [hcons]
        exact h
      -- without its last digit the number would be zero
      have hzero : n / 10 = decimal ['0'] := by
        rw [← ih (n / 10) (by omega) hfirst, decimal_ofNat]
      have hnil : decimal ['0'] = 0 := rfl
      omega

theorem readDigits?_ofNat (n : Nat) {rest : Text} (h : EndsNumber rest) :
    readDigits? (Text.ofNat n ++ rest) = some (Text.ofNat n, rest) := by
  have hdigits : (Text.ofNat n ++ rest).takeWhile Char.isDigit = Text.ofNat n :=
    takeWhile_append_of_stop (fun c hc => isDigit_of_mem_ofNat hc) fun c hc => (h c hc).1
  simp [readDigits?, hdigits, ofNat_ne_nil]

theorem readFraction?_of_endsNumber {rest : Text} (h : EndsNumber rest) :
    readFraction? rest = some ([], rest) := by
  unfold readFraction?
  split
  · exact absurd rfl (h '.' rfl).2.1
  · rfl

theorem readExponent?_of_endsNumber {rest : Text} (h : EndsNumber rest) :
    readExponent? rest = some ([], rest) := by
  cases rest with
  | nil => rfl
  | cons c t =>
    obtain ⟨-, -, hsmall, hbig⟩ := h c rfl
    simp [readExponent?, hsmall, hbig]

/-- A number is read from its digits, in front of a text that does not go on with it. -/
theorem readNumber?_ofNat (n : Nat) {rest : Text} (h : EndsNumber rest) :
    readNumber? (Text.ofNat n ++ rest) = some (.natural n, rest) := by
  have hzeros : ¬ ((Text.ofNat n).head? = some '0' ∧ Text.ofNat n ≠ ['0']) := by
    rintro ⟨hhead, hne⟩
    exact hne (ofNat_eq_of_head? n hhead)
  have hsign : ∀ t, Text.ofNat n ++ rest ≠ '-' :: t := by
    intro t heq
    obtain ⟨c, digits, hcons, hc⟩ := exists_cons_ofNat n
    rw [hcons] at heq
    obtain rfl : c = '-' := (List.cons.inj heq).1
    exact absurd hc (by decide)
  unfold readNumber?
  split
  next sign t hsplit =>
    split at hsplit
    · next u hminus => exact absurd hminus (hsign u)
    · cases hsplit
      rw [readDigits?_ofNat n h, Option.bind_eq_bind, Option.bind_some]
      simp only [if_neg hzeros, readFraction?_of_endsNumber h, readExponent?_of_endsNumber h,
        decimal_ofNat, Option.bind_some]
      rfl

/-! ## Control characters -/

/-- Does the text hold no control character, and with it no line break? -/
def ControlFree (t : Text) : Prop :=
  ∀ c ∈ t, 0x20 ≤ c.toNat

instance (t : Text) : Decidable (ControlFree t) :=
  List.decidableBAll _ t

@[simp] theorem controlFree_nil : ControlFree [] :=
  List.forall_mem_nil _

@[simp] theorem controlFree_cons {c : Char} {t : Text} :
    ControlFree (c :: t) ↔ 0x20 ≤ c.toNat ∧ ControlFree t :=
  List.forall_mem_cons

@[simp] theorem controlFree_append {s t : Text} :
    ControlFree (s ++ t) ↔ ControlFree s ∧ ControlFree t :=
  List.forall_mem_append

theorem controlFree_hexDigit {n : Nat} (h : n < 16) : 0x20 ≤ (hexDigit n).toNat := by
  have hall : ∀ n < 16, 0x20 ≤ (hexDigit n).toNat := by decide
  exact hall n h

theorem controlFree_ofNat (n : Nat) : ControlFree (Text.ofNat n) := by
  intro c hc
  have hle : '0'.toNat ≤ c.toNat := (Char.isDigit_iff_toNat.1 (isDigit_of_mem_ofNat hc)).1
  have hzero : '0'.toNat = 0x30 := rfl
  omega

theorem controlFree_escaped (c : Char) : ControlFree (escaped c) := by
  unfold escaped
  split_ifs with hquote hslash hback htab hline hform hreturn hcontrol
  · decide
  · decide
  · decide
  · decide
  · decide
  · decide
  · decide
  · have hhigh := controlFree_hexDigit (n := c.toNat / 16) (by omega)
    have hlow := controlFree_hexDigit (n := c.toNat % 16) (by omega)
    have hletters : ControlFree ['\\', 'u', '0', '0'] := by decide
    exact controlFree_append.2 ⟨hletters, by simp [hhigh, hlow]⟩
  · simpa using hcontrol

/-- A string literal holds no control character, whatever the text holds. -/
theorem controlFree_quoted (t : Text) : ControlFree (quoted t) := by
  have hquote : ControlFree ['"'] := by decide
  have hinner : ControlFree (t.flatMap escaped) := by
    intro d hd
    obtain ⟨c, -, hc⟩ := List.mem_flatMap.1 hd
    exact controlFree_escaped c d hc
  exact controlFree_append.2 ⟨controlFree_append.2 ⟨hquote, hinner⟩, hquote⟩

end Json
end ShellGuard
