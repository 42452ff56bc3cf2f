import ShellGuard.Proofs.Lists
import ShellGuard.Text.Utf8
import Mathlib.Algebra.Group.Nat.Defs
import Mathlib.Tactic.SplitIfs

/-!
# Octets — what a text is in UTF-8

The octets of a text say the text again, and they keep what matters about it: the octets of two
texts compare as the texts do, and a text begins with another one as soon as its octets do.  The
order rests on the form of a character: a first octet that tells how many follow, and then the
digits of the code in base 64, the highest first.

## Main definitions

* `Text.octets` — the octets of a text.
* `Utf8.trail`, `Utf8.following`, `Utf8.lead` — the parts of a character's form.

## Main statements

* `Text.length_octets` — there are as many octets as the size says.
* `Text.precedes_iff_octets_lt` — the order of texts is that of their octets.
* `Text.isPrefix_of_octets` — a beginning by octets is a beginning by characters.
* `Decoded.ofOctets_octets` — the octets of a text are read as that text.
-/

namespace ShellGuard

/-! ## The form of a character -/

namespace Utf8

/-- The last `k` octets of a code: digits in base 64, each marked as one that follows. -/
def trail : (k code : Nat) → List UInt8
  | 0, _ => []
  | k + 1, code => UInt8.ofNat (code / 64 ^ k % 64 + 0x80) :: trail k code

/-- How many octets follow the first one. -/
def following (code : Nat) : Nat :=
  if code ≤ 0x7F then 0 else if code ≤ 0x7FF then 1 else if code ≤ 0xFFFF then 2 else 3

/-- What marks a first octet that `k` others follow. -/
def lead : Nat → Nat
  | 0 => 0
  | 1 => 0xC0
  | 2 => 0xE0
  | _ => 0xF0

def first (code : Nat) : Nat :=
  lead (following code) + code / 64 ^ following code

theorem toNat_lt (c : Char) : c.toNat < 0x110000 := by
  rcases c.valid with h | ⟨-, h⟩
  · exact Nat.lt_trans h (by decide)
  · exact h

theorem utf8EncodeChar_eq (c : Char) :
    String.utf8EncodeChar c = UInt8.ofNat (first c.toNat) :: trail (following c.toNat) c.toNat := by
  have hlast := toNat_lt c
  unfold String.utf8EncodeChar first following
  change (if c.toNat ≤ 127 then _ else if c.toNat ≤ 2047 then _ else
    if c.toNat ≤ 65535 then _ else _) = _
  split_ifs with hone htwo hthree
  · simp [lead, trail]
  · have hdigit : c.toNat / 64 % 32 = c.toNat / 64 := Nat.mod_eq_of_lt (by omega)
    simp [lead, trail, hdigit, Nat.add_comm]
  · have hdigit : c.toNat / 4096 % 16 = c.toNat / 4096 := Nat.mod_eq_of_lt (by omega)
    simp [lead, trail, hdigit, Nat.add_comm]
  · have hdigit : c.toNat / 262144 % 8 = c.toNat / 262144 := Nat.mod_eq_of_lt (by omega)
    simp [lead, trail, hdigit, Nat.add_comm]

/-- Octets compare by their numbers first. -/
theorem ofNat_cons_lt {x y : Nat} (hy : y < 256) {s t : List UInt8} (h : x < y ∨ x = y ∧ s < t) :
    UInt8.ofNat x :: s < UInt8.ofNat y :: t := by
  rw [List.cons_lt_cons_iff]
  rcases h with hlt | ⟨rfl, hst⟩
  · refine .inl (UInt8.lt_iff_toNat_lt.2 ?_)
    rw [UInt8.toNat_ofNat', UInt8.toNat_ofNat']
    omega
  · exact .inr ⟨rfl, hst⟩

/-- Codes that differ in their last digits differ there in their octets. -/
theorem trail_append_lt {k m n : Nat} (h : m % 64 ^ k < n % 64 ^ k) (s t : List UInt8) :
    trail k m ++ s < trail k n ++ t := by
  induction k with
  | zero => simp [Nat.mod_one] at h
  | succ k ih =>
    rw [Nat.mod_pow_succ, Nat.mod_pow_succ] at h
    have hdigit : n / 64 ^ k % 64 < 64 := Nat.mod_lt _ (by decide)
    refine ofNat_cons_lt (by omega) ?_
    rcases Nat.lt_trichotomy (m / 64 ^ k % 64) (n / 64 ^ k % 64) with hlt | heq | hgt
    · exact .inl (by omega)
    · rw [heq] at h
      exact .inr ⟨by rw [heq], ih (by omega)⟩
    -- a greater digit outweighs all digits behind it
    · have hweight := Nat.mul_le_mul_left (64 ^ k) (Nat.succ_le_of_lt hgt)
      have hrest : n % 64 ^ k < 64 ^ k := Nat.mod_lt _ (Nat.pow_pos (by decide))
      rw [Nat.mul_succ] at hweight
      omega

theorem first_lt {code : Nat} (h : code < 0x110000) : first code < 256 := by
  unfold first following
  split_ifs <;> simp only [lead, Nat.reducePow] <;> omega

/-- A smaller code has the smaller octets, whatever stands behind them. -/
theorem form_append_lt {m n : Nat} (h : m < n) (hn : n < 0x110000) (s t : List UInt8) :
    UInt8.ofNat (first m) :: (trail (following m) m ++ s) <
      UInt8.ofNat (first n) :: (trail (following n) n ++ t) := by
  refine ofNat_cons_lt (first_lt hn) ?_
  by_cases hsame : following m = following n
  · have hle := Nat.div_le_div_right (c := 64 ^ following n) (Nat.le_of_lt h)
    unfold first
    rw [hsame]
    rcases Nat.lt_or_eq_of_le hle with hlt | heq
    · exact .inl (by omega)
    · have hm := Nat.div_add_mod m (64 ^ following n)
      have hn := Nat.div_add_mod n (64 ^ following n)
      rw [heq] at hm
      exact .inr ⟨by rw [heq], trail_append_lt (by omega) s t⟩
  · refine .inl ?_
    unfold first following at *
    split_ifs at hsame ⊢ <;> simp only [lead, Nat.reducePow] <;> omega

end Utf8

namespace Text

def octets (t : Text) : List UInt8 :=
  t.flatMap String.utf8EncodeChar

@[simp] theorem octets_nil : octets [] = [] := rfl

@[simp] theorem octets_cons (c : Char) (t : Text) :
    octets (c :: t) = String.utf8EncodeChar c ++ octets t := rfl

@[simp] theorem octets_append (s t : Text) : octets (s ++ t) = octets s ++ octets t :=
  List.flatMap_append

theorem length_octets (t : Text) : (octets t).length = byteSize t := by
  induction t with
  | nil => rfl
  | cons c t ih =>
    rw [octets_cons, List.length_append, String.length_utf8EncodeChar, ih, byteSize_cons]

theorem length_le_octets (t : Text) : t.length ≤ (octets t).length := by
  refine length_le_flatMap (fun c => ?_) t
  rw [← List.length_pos_iff, String.length_utf8EncodeChar]
  exact c.utf8Size_pos

/-! ## The order of texts -/

theorem octets_lt_of_precedes {s t : Text} (h : precedes s t) : octets s < octets t := by
  induction s generalizing t with
  | nil =>
    cases t with
    | nil => simp [precedes] at h
    | cons b t =>
      rw [octets_cons, Utf8.utf8EncodeChar_eq]
      exact List.nil_lt_cons _ _
  | cons a s ih =>
    cases t with
    | nil => simp [precedes] at h
    | cons b t =>
      simp only [precedes, Bool.or_eq_true, decide_eq_true_eq, Bool.and_eq_true] at h
      rw [octets_cons, octets_cons]
      rcases h with hlt | ⟨rfl, hst⟩
      · rw [Utf8.utf8EncodeChar_eq, Utf8.utf8EncodeChar_eq]
        exact Utf8.form_append_lt hlt (Utf8.toNat_lt b) (octets s) (octets t)
      · exact List.append_left_lt (ih hst)

/-- The order of texts is that of their octets. -/
theorem precedes_iff_octets_lt {s t : Text} : precedes s t ↔ octets s < octets t := by
  constructor
  · exact octets_lt_of_precedes
  · intro hlt
    by_cases hst : precedes s t
    · exact hst
    -- otherwise the texts are equal, or the other one comes first
    · by_cases heq : s = t
      · rw [heq] at hlt
        exact absurd hlt (List.lt_irrefl _)
      · have hback := octets_lt_of_precedes (precedes_of_not_precedes hst heq)
        exact absurd hlt (List.lt_asymm hback)

/-! ## Beginnings -/

/-- A text whose octets stand in front of those of another stands in front of it. -/
theorem isPrefix_of_octets {s t : Text} (h : octets s <+: octets t) : s <+: t := by
  obtain ⟨rest, hrest⟩ := h
  apply List.isPrefix_of_utf8Encode_append_eq_utf8Encode rest.toByteArray
  unfold List.utf8Encode
  rw [← List.toByteArray_append]
  exact congrArg List.toByteArray hrest

end Text

/-! ## Reading -/

namespace Decoded

theorem trailing?_ofNat {digit : Nat} (h : digit < 64) :
    trailing? (UInt8.ofNat (digit + 0x80)) = some digit := by
  have hall : ∀ digit < 64, trailing? (UInt8.ofNat (digit + 0x80)) = some digit := by decide
  exact hall digit h

/-- The first of two octets is told from others, and holds five bits. -/
theorem first_of_two (digit : Nat) (h : digit < 32) :
    ¬ UInt8.ofNat (0xC0 + digit) < 0x80 ∧ UInt8.ofNat (0xC0 + digit) &&& 0xE0 = 0xC0 ∧
      (UInt8.ofNat (0xC0 + digit) &&& 0x1F).toNat = digit := by
  have hall : ∀ digit < 32, ¬ UInt8.ofNat (0xC0 + digit) < 0x80 ∧
      UInt8.ofNat (0xC0 + digit) &&& 0xE0 = 0xC0 ∧
      (UInt8.ofNat (0xC0 + digit) &&& 0x1F).toNat = digit := by decide
  exact hall digit h

theorem first_of_three (digit : Nat) (h : digit < 16) :
    ¬ UInt8.ofNat (0xE0 + digit) < 0x80 ∧ UInt8.ofNat (0xE0 + digit) &&& 0xE0 ≠ 0xC0 ∧
      UInt8.ofNat (0xE0 + digit) &&& 0xF0 = 0xE0 ∧
      (UInt8.ofNat (0xE0 + digit) &&& 0x0F).toNat = digit := by
  have hall : ∀ digit < 16, ¬ UInt8.ofNat (0xE0 + digit) < 0x80 ∧
      UInt8.ofNat (0xE0 + digit) &&& 0xE0 ≠ 0xC0 ∧ UInt8.ofNat (0xE0 + digit) &&& 0xF0 = 0xE0 ∧
      (UInt8.ofNat (0xE0 + digit) &&& 0x0F).toNat = digit := by decide
  exact hall digit h

theorem first_of_four (digit : Nat) (h : digit < 8) :
    ¬ UInt8.ofNat (0xF0 + digit) < 0x80 ∧ UInt8.ofNat (0xF0 + digit) &&& 0xE0 ≠ 0xC0 ∧
      UInt8.ofNat (0xF0 + digit) &&& 0xF0 ≠ 0xE0 ∧ UInt8.ofNat (0xF0 + digit) &&& 0xF8 = 0xF0 ∧
      (UInt8.ofNat (0xF0 + digit) &&& 0x07).toNat = digit := by
  have hall : ∀ digit < 8, ¬ UInt8.ofNat (0xF0 + digit) < 0x80 ∧
      UInt8.ofNat (0xF0 + digit) &&& 0xE0 ≠ 0xC0 ∧ UInt8.ofNat (0xF0 + digit) &&& 0xF0 ≠ 0xE0 ∧
      UInt8.ofNat (0xF0 + digit) &&& 0xF8 = 0xF0 ∧
      (UInt8.ofNat (0xF0 + digit) &&& 0x07).toNat = digit := by decide
  exact hall digit h

theorem charOfCode?_eq {c : Char} {least code : Nat} (hcode : code = c.toNat)
    (hleast : least ≤ code) : charOfCode? least code = some c := by
  subst hcode
  unfold charOfCode?
  rw [dif_pos ⟨hleast, c.valid⟩]
  rfl

section Reading

variable {a b c d : UInt8} {x y z : Nat} {char : Char}

theorem readChar?_one (hlow : a < 0x80) (hchar : charOfCode? 0 a.toNat = some char)
    (rest : List UInt8) : readChar? (a :: rest) = some (char, rest) := by
  simp [readChar?, hlow, hchar]

theorem readChar?_two (hlow : ¬ a < 0x80) (hmark : a &&& 0xE0 = 0xC0) (hb : trailing? b = some x)
    (hchar : charOfCode? 0x80 ((a &&& 0x1F).toNat * 0x40 + x) = some char) (rest : List UInt8) :
    readChar? (a :: b :: rest) = some (char, rest) := by
  simp [readChar?, -UInt8.toNat_and, hlow, hb, hmark, hchar]

theorem readChar?_three (hlow : ¬ a < 0x80) (htwo : a &&& 0xE0 ≠ 0xC0) (hmark : a &&& 0xF0 = 0xE0)
    (hb : trailing? b = some x) (hc : trailing? c = some y)
    (hchar : charOfCode? 0x800 (((a &&& 0x0F).toNat * 0x40 + x) * 0x40 + y) = some char)
    (rest : List UInt8) : readChar? (a :: b :: c :: rest) = some (char, rest) := by
  simp [readChar?, -UInt8.toNat_and, hlow, hb, hc, htwo, hmark, hchar]

theorem readChar?_four (hlow : ¬ a < 0x80) (htwo : a &&& 0xE0 ≠ 0xC0) (hthree : a &&& 0xF0 ≠ 0xE0)
    (hmark : a &&& 0xF8 = 0xF0) (hb : trailing? b = some x) (hc : trailing? c = some y)
    (hd : trailing? d = some z)
    (hchar : charOfCode? 0x10000 ((((a &&& 0x07).toNat * 0x40 + x) * 0x40 + y) * 0x40 + z) =
      some char) (rest : List UInt8) :
    readChar? (a :: b :: c :: d :: rest) = some (char, rest) := by
  simp [readChar?, -UInt8.toNat_and, hlow, hb, hc, hd, htwo, hthree, hmark, hchar]

end Reading

/-- A character is read from its octets, whatever stands behind them. -/
theorem readChar?_utf8EncodeChar (c : Char) (rest : List UInt8) :
    readChar? (String.utf8EncodeChar c ++ rest) = some (c, rest) := by
  have hlast := Utf8.toNat_lt c
  have hlowest : c.toNat % 64 < 64 := Nat.mod_lt _ (by decide)
  have hlower : c.toNat / 64 % 64 < 64 := Nat.mod_lt _ (by decide)
  have hlow : c.toNat / 4096 % 64 < 64 := Nat.mod_lt _ (by decide)
  rw [Utf8.utf8EncodeChar_eq]
  unfold Utf8.first Utf8.following
  split_ifs with hone htwo hthree <;>
    simp only [Utf8.lead, Utf8.trail, Nat.pow_zero, Nat.div_one, Nat.zero_add, Nat.reducePow,
      List.cons_append, List.nil_append]
  · have hcode : (UInt8.ofNat c.toNat).toNat = c.toNat := by
      rw [UInt8.toNat_ofNat']
      exact Nat.mod_eq_of_lt (by omega)
    have hsmall : UInt8.ofNat c.toNat < 0x80 := by
      rw [UInt8.lt_iff_toNat_lt, hcode]
      exact Nat.lt_succ_of_le hone
    exact readChar?_one hsmall (charOfCode?_eq hcode (Nat.zero_le _)) rest
  · obtain ⟨hlarge, hmark, hdigit⟩ := first_of_two (c.toNat / 64) (by omega)
    refine readChar?_two hlarge hmark (trailing?_ofNat hlowest) ?_ rest
    rw [hdigit]
    exact charOfCode?_eq (by omega) (by omega)
  · obtain ⟨hlarge, htwice, hmark, hdigit⟩ := first_of_three (c.toNat / 4096) (by omega)
    refine readChar?_three hlarge htwice hmark (trailing?_ofNat hlower) (trailing?_ofNat hlowest)
      ?_ rest
    rw [hdigit]
    exact charOfCode?_eq (by omega) (by omega)
  · obtain ⟨hlarge, htwice, hthrice, hmark, hdigit⟩ :=
      first_of_four (c.toNat / 262144) (by omega)
    refine readChar?_four hlarge htwice hthrice hmark (trailing?_ofNat hlow)
      (trailing?_ofNat hlower) (trailing?_ofNat hlowest) ?_ rest
    rw [hdigit]
    exact charOfCode?_eq (by omega) (by omega)

/-- With enough fuel the octets of a text are read to their end, behind what was read before. -/
theorem decode_octets {fuel : Nat} {t : Text} (h : t.length < fuel) (read : Text) :
    decode fuel read t.octets = .ofText (read.reverse ++ t) := by
  induction t generalizing fuel read with
  | nil =>
    obtain ⟨fuel, rfl⟩ := Nat.exists_eq_add_one_of_ne_zero (Nat.ne_zero_of_lt h)
    simp [decode, ofText]
  | cons c t ih =>
    obtain ⟨fuel, rfl⟩ := Nat.exists_eq_add_one_of_ne_zero (Nat.ne_zero_of_lt h)
    have hrest := ih (Nat.lt_of_succ_lt_succ h) (c :: read)
    have hsome : Text.octets (c :: t) ≠ [] := by simp [String.utf8EncodeChar_ne_nil]
    rw [decode, Text.octets_cons, readChar?_utf8EncodeChar]
    · simpa using hrest
    · exact hsome

/-- The octets of a text are read as that text. -/
theorem ofOctets_octets (t : Text) : ofOctets t.octets = .ofText t := by
  exact decode_octets (Nat.lt_succ_of_le t.length_le_octets) []

end Decoded
end ShellGuard
