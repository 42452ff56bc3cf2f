import ShellGuard.Proofs.Text.Octets
import ShellGuard.Proofs.Shell.EscapedWords

/-!
# ExpansionSizes — how many bytes of a text an expansion takes

The size of an expansion is counted in three ways, which agree: in bytes up to a closing brace that
may stand anywhere, in characters of a name, or as a constant.  Whatever the text holds besides, a
size is given exactly if that many bytes spell one of the three forms, a bare name up to its end;
no two sizes fit one text, and a size never ends inside a character.

## Main definitions

* `Expansion.FirstOctets` — the first bytes of a text spell another one.
* `Expansion.Fits` — the first bytes of a text spell an expansion.

## Main statements

* `Expansion.size?_eq` — the size is that of the expansion that is read.
* `Expansion.size?_eq_some_iff_fits` — which sizes are given.
-/

namespace ShellGuard.Shell
namespace Expansion

/-! ## Sizes of names -/

theorem utf8Size_of_isNameChar {c : Char} (h : isNameChar c) : c.utf8Size = 1 := by
  rw [Char.utf8Size_eq_one_iff, UInt32.le_iff_toNat_le]
  have hlast : (127 : UInt32).toNat = 127 := rfl
  rw [isNameChar, Char.isAlphanum] at h
  delta Char.isAlpha Char.isUpper Char.isLower at h
  simp only [Char.isDigit, Bool.or_eq_true, Bool.and_eq_true, decide_eq_true_eq,
    UInt32.le_iff_toNat_le, ge_iff_le] at h
  have hupper : 'Z'.val.toNat = 90 := rfl
  have hlower : 'z'.val.toNat = 122 := rfl
  have hnine : '9'.val.toNat = 57 := rfl
  rcases h with hletter | rfl
  · omega
  · decide

/-- A name takes as many bytes as it has characters. -/
theorem byteSize_of_isNameChar {t : Text} (h : ∀ c ∈ t, isNameChar c) : t.byteSize = t.length := by
  induction t with
  | nil => rfl
  | cons c t ih =>
    obtain ⟨hc, ht⟩ := List.forall_mem_cons.1 h
    rw [Text.byteSize_cons, utf8Size_of_isNameChar hc, ih ht, List.length_cons, Nat.add_comm]

/-! ## The size and the reader -/

theorem size?_braced (t : Text) :
    size? ('$' :: '\x7b' :: t) =
      (readBraced? t).map fun found => found.1.text.byteSize := by
  rw [size?]
  unfold readBraced?
  dsimp only
  generalize t.takeWhile (fun c => decide (c ≠ '\x7d')) = name
  have hbyteSize : (braced name).text.byteSize = Text.byteSize name + 3 := by
    have hone : '$'.utf8Size = 1 ∧ '\x7b'.utf8Size = 1 ∧ '\x7d'.utf8Size = 1 := by decide
    simp only [text, List.cons_append, List.nil_append, Text.byteSize_cons, Text.byteSize_append,
      Text.byteSize_nil, hone]
    omega
  -- a closing brace stands behind the name exactly if the name is not all of the text
  cases hdrop : t.drop name.length with
  | nil =>
    have hlength : ¬ name.length < t.length := Nat.not_lt.2 (List.drop_eq_nil_iff.1 hdrop)
    simp [hlength]
  | cons c rest =>
    have hlength : name.length < t.length := by
      rw [← Nat.not_le, ← List.drop_eq_nil_iff, hdrop]
      exact List.cons_ne_nil c rest
    by_cases hname : isName name
    · simp [hlength, hname, hbyteSize]
    · simp [hname]

theorem byteSize_named {c : Char} (hstart : isNameStart c) (t : Text) :
    (named (c :: t.takeWhile isNameChar)).text.byteSize =
      1 + ((c :: t).takeWhile isNameChar).length := by
  have hchar := isNameChar_of_isNameStart hstart
  have hmore : ∀ d ∈ (c :: t).takeWhile isNameChar, isNameChar d :=
    fun d hd => List.all_eq_true.1 List.all_takeWhile d hd
  have hdollar : '$'.utf8Size = 1 := by decide
  rw [List.takeWhile_cons_of_pos hchar] at hmore ⊢
  rw [text, Text.byteSize_cons, hdollar, byteSize_of_isNameChar hmore]

/-- The size is that of the expansion that is read. -/
theorem size?_eq (t : Text) : size? t = (read? t).map fun found => found.1.text.byteSize := by
  unfold read?
  split
  · exact size?_braced _
  · next c t hbrace =>
    rw [size?]
    · by_cases hdigit : c.isDigit
      · have hone : '$'.utf8Size = 1 ∧ c.utf8Size = 1 :=
          ⟨by decide, utf8Size_of_isNameChar (by simp [isNameChar, Char.isAlphanum, hdigit])⟩
        simp [hdigit, text, hone]
      · by_cases hstart : isNameStart c
        · simp [hdigit, hstart, byteSize_named hstart]
        · simp [hdigit, hstart]
    · exact hbrace
  · next hbraced hother =>
    rw [size?]
    · rfl
    · exact hbraced
    · exact hother

/-! ## First bytes -/

/-- Do the first `n` bytes of `t` spell `form`? -/
def FirstOctets (t : Text) (n : Nat) (form : Text) : Prop :=
  n ≤ t.octets.length ∧ t.octets.take n = form.octets

/--
Do the first `n` bytes of `t` spell an expansion: a digit, a name in braces, or a name that does not
go on behind them?
-/
inductive Fits (t : Text) (n : Nat) : Prop
  | digit (d : Char) (hdigit : '0' ≤ d ∧ d ≤ '9') (hfirst : FirstOctets t n ['$', d])
  | braced (name : Text) (hname : isVariable name)
      (hfirst : FirstOctets t n (['$', '\x7b'] ++ name ++ ['\x7d']))
  | named (name : Text) (hname : isVariable name) (hfirst : FirstOctets t n ('$' :: name))
      (hend : ∀ c behind, t = '$' :: name ++ c :: behind → ¬ (c.isAlphanum ∨ c = '_'))

theorem firstOctets_append (form behind : Text) :
    FirstOctets (form ++ behind) form.byteSize form := by
  have hlength := form.length_octets
  constructor
  · rw [Text.octets_append, List.length_append, hlength]
    exact Nat.le_add_right _ _
  · rw [Text.octets_append]
    exact List.take_left' hlength

/-- First bytes that spell a text are all of its bytes, and what stands behind them is a text. -/
theorem FirstOctets.exists_append {t form : Text} {n : Nat} (h : FirstOctets t n form) :
    n = form.byteSize ∧ ∃ behind, t = form ++ behind := by
  obtain ⟨hle, htake⟩ := h
  have hlength := congrArg List.length htake
  rw [List.length_take, Nat.min_eq_left hle, form.length_octets] at hlength
  have hlead : form.octets <+: t.octets := htake ▸ List.take_prefix n t.octets
  obtain ⟨behind, hbehind⟩ := Text.isPrefix_of_octets hlead
  exact ⟨hlength, behind, hbehind.symm⟩

theorem isDigit_iff_le {d : Char} : d.isDigit ↔ '0' ≤ d ∧ d ≤ '9' := by
  simp [Char.isDigit, Char.le_def]

/-- The first bytes spell an expansion if the text has one in front that ends there. -/
theorem fits_iff {t : Text} {n : Nat} :
    Fits t n ↔ ∃ (x : Expansion) (rest : Text),
      t = x.text ++ rest ∧ x.IsProper ∧ x.EndsBefore rest ∧ n = x.text.byteSize := by
  constructor
  · intro h
    cases h with
    | digit d hdigit hfirst =>
      obtain ⟨hn, rest, ht⟩ := hfirst.exists_append
      exact ⟨positional d, rest, ht, isDigit_iff_le.2 hdigit, trivial, hn⟩
    | braced name hname hfirst =>
      obtain ⟨hn, rest, ht⟩ := hfirst.exists_append
      rw [isVariable_eq_isName] at hname
      exact ⟨braced name, rest, ht, hname, trivial, hn⟩
    | named name hname hfirst hend =>
      obtain ⟨hn, rest, ht⟩ := hfirst.exists_append
      rw [isVariable_eq_isName] at hname
      refine ⟨named name, rest, ht, hname, ?_, hn⟩
      intro c hc
      obtain ⟨behind, rfl⟩ := List.head?_eq_some_iff.1 hc
      simpa [isNameChar] using hend c behind ht
  · rintro ⟨x, rest, rfl, hx, hend, rfl⟩
    have hfirst := firstOctets_append x.text rest
    cases x with
    | positional d => exact .digit d (isDigit_iff_le.1 hx) hfirst
    | braced name => exact .braced name ((isVariable_eq_isName name).trans hx) hfirst
    | named name =>
      refine .named name ((isVariable_eq_isName name).trans hx) hfirst ?_
      intro c behind heq
      obtain rfl : rest = c :: behind := List.append_cancel_left heq
      simpa [isNameChar] using hend c rfl

theorem two_le_byteSize_text {x : Expansion} (hx : x.IsProper) : 2 ≤ x.text.byteSize := by
  have hlength : 2 ≤ x.text.length := by
    cases x with
    | positional d => exact Nat.le_refl 2
    | braced name => simp [text]
    | named name =>
      obtain ⟨c, more, rfl, -, -⟩ := exists_cons_of_isName hx
      simp [text]
  exact Nat.le_trans hlength (x.text.length_octets ▸ x.text.length_le_octets)

/-- A size is given exactly if so many first bytes spell an expansion. -/
theorem size?_eq_some_iff {t : Text} {n : Nat} : size? t = some n ↔ Fits t n := by
  rw [size?_eq, fits_iff, Option.map_eq_some_iff]
  constructor
  · rintro ⟨⟨x, rest⟩, hread, rfl⟩
    obtain ⟨ht, hx, hend⟩ := read?_eq_some_iff.1 hread
    exact ⟨x, rest, ht, hx, hend, rfl⟩
  · rintro ⟨x, rest, ht, hx, hend, rfl⟩
    exact ⟨(x, rest), read?_eq_some_iff.2 ⟨ht, hx, hend⟩, rfl⟩

/--
A size is given exactly if so many first bytes spell an expansion, and no other number of them does.
It is at least two and no more than the text has, and the bytes are those of a beginning of the
text, so none of its characters is cut.
-/
theorem size?_eq_some_iff_fits (t : Text) (n : Nat) :
    (size? t = some n ↔ Fits t n) ∧ (∀ m, Fits t m → Fits t n → m = n) ∧
      (Fits t n → 2 ≤ n ∧ n ≤ t.byteSize ∧
        ∃ lead behind, t = lead ++ behind ∧ lead.octets = t.octets.take n) := by
  refine ⟨size?_eq_some_iff, ?_, ?_⟩
  · intro m hm hn
    have hsame := (size?_eq_some_iff.2 hm).symm.trans (size?_eq_some_iff.2 hn)
    exact Option.some.inj hsame
  · intro hfits
    obtain ⟨x, rest, rfl, hx, -, rfl⟩ := fits_iff.1 hfits
    obtain ⟨hle, htake⟩ := firstOctets_append x.text rest
    rw [Text.length_octets] at hle
    exact ⟨two_le_byteSize_text hx, hle, x.text, rest, rfl, htake.symm⟩

/-- A name that a letter of two bytes ends; in braces the letter leaves no expansion. -/
theorem size?_eq_some_iff_fits_letter :
    Fits ['$', 'a', 'é', '\x7d'] 2 ∧ size? ['$', 'a', 'é', '\x7d'] = some 2 ∧
      (∀ m, Fits ['$', 'a', 'é', '\x7d'] m → m = 2) ∧
      size? ['$', '\x7b', 'a', 'é', '\x7d'] = none ∧
      ∀ n, ¬ Fits ['$', '\x7b', 'a', 'é', '\x7d'] n := by
  have hsize : size? ['$', 'a', 'é', '\x7d'] = some 2 := by decide
  have hnone : size? ['$', '\x7b', 'a', 'é', '\x7d'] = none := by decide
  obtain ⟨hiff, hunique, -⟩ := size?_eq_some_iff_fits ['$', 'a', 'é', '\x7d'] 2
  have hfits := hiff.1 hsize
  refine ⟨hfits, hsize, fun m hm => hunique m hm hfits, hnone, ?_⟩
  intro n hbraced
  have hsome := (size?_eq_some_iff_fits _ n).1.2 hbraced
  rw [hnone] at hsome
  cases hsome

end Expansion
end ShellGuard.Shell
