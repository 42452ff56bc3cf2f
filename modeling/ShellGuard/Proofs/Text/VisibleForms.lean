import ShellGuard.Proofs.Json.Literals
import ShellGuard.Proofs.Text.CodeRanges
import ShellGuard.Text.Visible

/-!
# VisibleForms — visible text is read back, and shows no control

What stands for a character in visible text is a character of its own, or a backslash with what is
behind it: a letter, the character, or a code point in braces.  So a reader that takes one form
after the other gets the text back, and stops at the first quote without a backslash.  No control
prints, so none is left in visible text.

## Main definitions

* `Visible.readChar?` — reads one character from its visible form.
* `Visible.readQuoted?` — reads a text up to the quote that closes it.
* `Visible.IsControl`, `Visible.ShowsNoControl` — the control characters, those above ASCII among
  them, and texts without any.

## Main statements

* `Visible.readChar?_ofChar` — every character is read from its visible form.
* `Visible.readQuoted?_text` — every text is read from its visible form, up to the closing quote.
* `Visible.showsNoControl_text` — visible text holds no control character.
-/

namespace ShellGuard
namespace Visible

/-! ## Code points -/

theorem hex_of_lt {n : Nat} (h : n < 16) : hex n = [Json.hexDigit n] :=
  Nat.toDigits_of_lt_base h

theorem hex_of_le {n : Nat} (h : 16 ≤ n) : hex n = hex (n / 16) ++ [Json.hexDigit (n % 16)] :=
  Nat.toDigits_of_base_le (by decide) h

/-- The digits of a number in base 16 stand for it. -/
theorem hexValue_hex (n : Nat) : CharSet.hexValue (hex n) = n := by
  induction n using Nat.strongRecOn with
  | _ n ih =>
    rcases Nat.lt_or_ge n 16 with hlt | hge
    · rw [hex_of_lt hlt]
      simp [CharSet.hexValue, Json.hexDigit?_hexDigit hlt]
    · have hlead := ih (n / 16) (by omega)
      have hlast := Json.hexDigit?_hexDigit (n := n % 16) (by omega)
      rw [CharSet.hexValue] at hlead ⊢
      rw [hex_of_le hge, List.foldl_append, hlead]
      simp only [List.foldl_cons, List.foldl_nil, hlast]
      omega

theorem mem_hex {n : Nat} {d : Char} (h : d ∈ hex n) : ∃ m < 16, d = Json.hexDigit m := by
  induction n using Nat.strongRecOn with
  | _ n ih =>
    rcases Nat.lt_or_ge n 16 with hlt | hge
    · rw [hex_of_lt hlt] at h
      exact ⟨n, hlt, List.mem_singleton.1 h⟩
    · rw [hex_of_le hge] at h
      rcases List.mem_append.1 h with hlead | hlast
      · exact ih (n / 16) (by omega) hlead
      · exact ⟨n % 16, by omega, List.mem_singleton.1 hlast⟩

theorem ne_brace_of_mem_hex {n : Nat} {d : Char} (h : d ∈ hex n) : d ≠ '\x7d' := by
  have hall : ∀ m < 16, Json.hexDigit m ≠ '\x7d' := by decide
  obtain ⟨m, hm, rfl⟩ := mem_hex h
  exact hall m hm

/-! ## Reading -/

/-- The character that a backslash and a letter stand for; other characters stand for themselves. -/
def named (letter : Char) : Char :=
  if letter = '0' then '\x00'
  else if letter = 't' then '\t'
  else if letter = 'r' then '\r'
  else if letter = 'n' then '\n'
  else letter

def readCodePoint? : Text → Option (Char × Text)
  | '\x7b' :: t =>
    let digits := t.takeWhile (· ≠ '\x7d')
    some (Char.ofNat (CharSet.hexValue digits), t.drop (digits.length + 1))
  | _ => none

def readChar? : Text → Option (Char × Text)
  | [] => none
  | ['\\'] => none
  | '\\' :: letter :: t => if letter = 'u' then readCodePoint? t else some (named letter, t)
  | c :: t => some (c, t)

/-- Reads a visible text with some fuel, up to the quote that closes it. -/
def readForms? : (fuel : Nat) → Text → Option (Text × Text)
  | 0, _ => none
  | _ + 1, '\'' :: t => some ([], t)
  | fuel + 1, t => do
    let (c, t) ← readChar? t
    let (s, t) ← readForms? fuel t
    some (c :: s, t)

def readQuoted? (t : Text) : Option (Text × Text) :=
  readForms? (t.length + 1) t

variable {alone : Bool} {c : Char}

/-- The characters that take a backslash and stay what they are. -/
theorem slashed_iff : c = '\\' ∨ c ∈ ['\'', '"'] ↔ c = '\\' ∨ c = '\'' ∨ c = '"' := by
  simp

theorem readChar?_plain (h : c ≠ '\\') (t : Text) : readChar? (c :: t) = some (c, t) := by
  rw [readChar?]
  · rintro rfl
    exact absurd rfl h
  · intro letter rest heq
    exact absurd heq h

theorem readChar?_codePoint (c : Char) (t : Text) :
    readChar? (codePoint c ++ t) = some (c, t) := by
  have hdigits : (hex c.toNat ++ '\x7d' :: t).takeWhile (· ≠ '\x7d') = hex c.toNat := by
    refine takeWhile_append_of_stop (fun d hd => ?_) (fun d hd => ?_)
    · simpa using ne_brace_of_mem_hex hd
    · simp only [List.head?_cons, Option.mem_def, Option.some.injEq] at hd
      simp [← hd]
  have hform : codePoint c ++ t = '\\' :: 'u' :: '\x7b' :: (hex c.toNat ++ '\x7d' :: t) := by
    simp [codePoint]
  rw [hform, readChar?, if_pos rfl, readCodePoint?, hdigits, hexValue_hex, Char.ofNat_toNat]
  simp [← List.drop_drop]

/-- Every character is read from its visible form. -/
theorem readChar?_ofChar (alone : Bool) (c : Char) (t : Text) :
    readChar? (ofChar ['\'', '"'] alone c ++ t) = some (c, t) := by
  unfold ofChar
  split_ifs with hnul htab hreturn hfeed hslash hmark hprint
  · subst c; rfl
  · subst c; rfl
  · subst c; rfl
  · subst c; rfl
  · -- what is left behind a backslash is no letter that stands for something else
    rcases slashed_iff.1 hslash with rfl | rfl | rfl <;> rfl
  · exact readChar?_codePoint c t
  · exact readChar?_plain (fun heq => hslash (.inl heq)) t
  · exact readChar?_codePoint c t

/-- No form begins with the quote that closes a text. -/
theorem head?_ofChar_ne (alone : Bool) (c : Char) (t : Text) :
    (ofChar ['\'', '"'] alone c ++ t).head? ≠ some '\'' := by
  unfold ofChar codePoint
  split_ifs with hnul htab hreturn hfeed hslash hmark hprint
  · simp
  · simp
  · simp
  · simp
  · simp
  · simp
  · -- a character without a backslash is no quote
    simp only [List.cons_append, List.nil_append, List.head?_cons, ne_eq, Option.some.injEq]
    rintro rfl
    exact hslash (slashed_iff.2 (.inr (.inl rfl)))
  · simp

def consForm (c : Char) (read : Text × Text) : Text × Text :=
  (c :: read.1, read.2)

theorem readForms?_ofChar (fuel : Nat) (t : Text) :
    readForms? (fuel + 1) (ofChar ['\'', '"'] alone c ++ t) =
      (readForms? fuel t).map (consForm c) := by
  rw [readForms?]
  · rw [readChar?_ofChar]
    cases hread : readForms? fuel t <;> simp [consForm, hread]
  · intro rest heq
    refine head?_ofChar_ne alone c t ?_
    rw [heq]
    rfl

theorem readForms?_flatMap (s rest : Text) {fuel : Nat} (h : s.length < fuel) :
    readForms? fuel (s.flatMap (ofChar ['\'', '"'] false) ++ '\'' :: rest) = some (s, rest) := by
  obtain ⟨fuel, rfl⟩ := Nat.exists_eq_add_one_of_ne_zero (Nat.ne_zero_of_lt h)
  induction s generalizing fuel with
  | nil => rfl
  | cons c s ih =>
    obtain ⟨fuel, rfl⟩ :=
      Nat.exists_eq_add_one_of_ne_zero (Nat.ne_zero_of_lt (Nat.lt_of_succ_lt_succ h))
    rw [List.flatMap_cons, List.append_assoc, readForms?_ofChar,
      ih fuel (Nat.lt_of_succ_lt_succ h)]
    rfl

theorem ofChar_ne_nil (alone : Bool) (c : Char) : ofChar ['\'', '"'] alone c ≠ [] := by
  unfold ofChar codePoint
  split_ifs <;> exact List.cons_ne_nil _ _

theorem length_le_length_text (s : Text) : s.length ≤ (text s).length := by
  cases s with
  | nil => exact Nat.le_refl 0
  | cons c s =>
    have hpos := List.length_pos_iff.2 (ofChar_ne_nil true c)
    have hrest := length_le_flatMap (ofChar_ne_nil false) s
    rw [text, List.length_append, List.length_cons]
    omega

theorem readForms?_text (s rest : Text) {fuel : Nat} (h : s.length < fuel) :
    readForms? fuel (text s ++ '\'' :: rest) = some (s, rest) := by
  obtain ⟨fuel, rfl⟩ := Nat.exists_eq_add_one_of_ne_zero (Nat.ne_zero_of_lt h)
  cases s with
  | nil => rfl
  | cons c s =>
    rw [text, List.append_assoc, readForms?_ofChar,
      readForms?_flatMap s rest (Nat.lt_of_succ_lt_succ h)]
    rfl

/-- Every text is read from its visible form between quotes, up to the quote that closes it. -/
theorem readQuoted?_text (s rest : Text) :
    readQuoted? (text s ++ '\'' :: rest) = some (s, rest) := by
  have hlength := length_le_length_text s
  refine readForms?_text s rest ?_
  rw [List.length_append]
  omega

/-! ## Controls -/

/-- Is the character a control, of ASCII or of the block behind it? -/
def IsControl (c : Char) : Prop :=
  c.toNat < 0x20 ∨ 0x7F ≤ c.toNat ∧ c.toNat ≤ 0x9F

instance (c : Char) : Decidable (IsControl c) :=
  inferInstanceAs (Decidable (_ ∨ _))

def ShowsNoControl (t : Text) : Prop :=
  ∀ c ∈ t, ¬ IsControl c

instance (t : Text) : Decidable (ShowsNoControl t) :=
  List.decidableBAll _ t

@[simp] theorem showsNoControl_append {s t : Text} :
    ShowsNoControl (s ++ t) ↔ ShowsNoControl s ∧ ShowsNoControl t :=
  List.forall_mem_append

theorem showsNoControl_singleton {c : Char} : ShowsNoControl [c] ↔ ¬ IsControl c :=
  List.forall_mem_singleton

/-- The controls are the members of their general category. -/
theorem covers_ccSet {code : Nat} :
    CharSet.Covers Category.ccSet.ranges code ↔ code < 0x20 ∨ 0x7F ≤ code ∧ code ≤ 0x9F := by
  have hranges : (CharSet.words (Category.table .cc)).map CharSet.rangeOfHex =
      [⟨0, 0x1F⟩, ⟨0x7F, 0x9F⟩] := by
    decide +kernel
  rw [Category.ccSet, CharSet.ofHex, CharSet.covers_ofRanges, hranges]
  simp only [CharSet.Covers, List.mem_cons, List.not_mem_nil, or_false, exists_eq_or_imp,
    exists_eq_left]
  omega

theorem not_isPrintable_of_isControl (h : IsControl c) : isPrintable c = false := by
  have hspace : c ≠ ' ' := by
    rintro rfl
    exact absurd h (by decide)
  have hothers : Category.others.contains c := by
    rw [CharSet.contains, Category.others, CharSet.containsCode_union, Category.setOf,
      CharSet.covers_unions]
    exact .inl ⟨Category.ccSet, by simp [Category.set], covers_ccSet.2 h⟩
  simp [isPrintable, hspace, hothers]

theorem showsNoControl_codePoint (c : Char) : ShowsNoControl (codePoint c) := by
  have hopening : ShowsNoControl ['\\', 'u', '\x7b'] := by decide
  have hclosing : ShowsNoControl ['\x7d'] := by decide
  have hdigits : ShowsNoControl (hex c.toNat) := by
    have hall : ∀ m < 16, ¬ IsControl (Json.hexDigit m) := by decide
    intro d hd
    obtain ⟨m, hm, rfl⟩ := mem_hex hd
    exact hall m hm
  exact showsNoControl_append.2 ⟨showsNoControl_append.2 ⟨hopening, hdigits⟩, hclosing⟩

theorem showsNoControl_ofChar (alone : Bool) (c : Char) :
    ShowsNoControl (ofChar ['\'', '"'] alone c) := by
  unfold ofChar
  split_ifs with hnul htab hreturn hfeed hslash hmark hprint
  · decide
  · decide
  · decide
  · decide
  · rcases slashed_iff.1 hslash with rfl | rfl | rfl <;> decide
  · exact showsNoControl_codePoint c
  · refine showsNoControl_singleton.2 fun hcontrol => ?_
    rw [not_isPrintable_of_isControl hcontrol] at hprint
    cases hprint
  · exact showsNoControl_codePoint c

/-- Visible text holds no control character, whatever the text holds. -/
theorem showsNoControl_text (s : Text) : ShowsNoControl (text s) := by
  cases s with
  | nil => exact List.forall_mem_nil _
  | cons c s =>
    have hrest : ShowsNoControl (s.flatMap (ofChar ['\'', '"'] false)) := by
      intro d hd
      obtain ⟨c, -, hd⟩ := List.mem_flatMap.1 hd
      exact showsNoControl_ofChar false c d hd
    exact showsNoControl_append.2 ⟨showsNoControl_ofChar true c, hrest⟩

end Visible
end ShellGuard
