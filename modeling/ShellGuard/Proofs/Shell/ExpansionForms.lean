import ShellGuard.Proofs.Lists
import ShellGuard.Shell.Expansion

/-!
# ExpansionForms — which expansions a text starts with

The reader of expansions is exact: what it reads is of one of the three forms, a bare name is read
to its end, and a text that starts with one of the forms is not passed over.

## Main definitions

* `Expansion.IsProper` — the digit is a digit, and the name is a name.
* `Expansion.EndsBefore` — a bare name goes on through every name character.

## Main statements

* `Expansion.read?_eq_some_iff` — soundness and completeness of the reader.
-/

namespace ShellGuard.Shell
namespace Expansion

/-- Is the expansion a digit or a name, as its form says? -/
def IsProper : Expansion → Prop
  | positional digit => digit.isDigit
  | named name => isName name
  | braced name => isName name

/-- Does the expansion end where `rest` begins?  Only a bare name could go on. -/
def EndsBefore : Expansion → Text → Prop
  | named _, rest => ∀ c ∈ rest.head?, ¬ isNameChar c
  | _, _ => True

theorem isName_cons {c : Char} {more : Text} (hstart : isNameStart c)
    (hmore : ∀ d ∈ more, isNameChar d) : isName (c :: more) := by
  simpa [isName, hstart] using hmore

theorem exists_cons_of_isName {name : Text} (h : isName name) :
    ∃ c more, name = c :: more ∧ isNameStart c ∧ ∀ d ∈ more, isNameChar d := by
  cases name with
  | nil => simp [isName] at h
  | cons c more =>
    have hparts : isNameStart c = true ∧ ∀ d ∈ more, isNameChar d = true := by
      simpa [isName] using h
    exact ⟨c, more, rfl, hparts.1, hparts.2⟩

theorem isNameChar_of_isNameStart {c : Char} (h : isNameStart c) : isNameChar c := by
  simp only [isNameStart, isNameChar, Char.isAlphanum, Bool.or_eq_true] at h ⊢
  rcases h with halpha | hline
  · exact .inl (.inl halpha)
  · exact .inr hline

theorem isDigit_eq_false_of_isNameStart {c : Char} (h : isNameStart c) : c.isDigit = false := by
  rw [Bool.eq_false_iff]
  intro hdigit
  rw [isNameStart, Bool.or_eq_true, decide_eq_true_eq] at h
  rcases h with halpha | rfl
  · delta Char.isAlpha Char.isUpper Char.isLower at halpha
    simp only [Char.isDigit, Bool.or_eq_true, Bool.and_eq_true, decide_eq_true_eq,
      UInt32.le_iff_toNat_le, ge_iff_le] at halpha hdigit
    have hupper : 'A'.val.toNat = 65 := rfl
    have hlower : 'a'.val.toNat = 97 := rfl
    have hnine : '9'.val.toNat = 57 := rfl
    omega
  · exact absurd hdigit (by decide)

theorem isNameChar_of_mem {name : Text} (h : isName name) {d : Char} (hd : d ∈ name) :
    isNameChar d := by
  rcases exists_cons_of_isName h with ⟨c, more, rfl, hstart, hmore⟩
  rcases List.mem_cons.1 hd with rfl | hd
  · exact isNameChar_of_isNameStart hstart
  · exact hmore d hd

/-- An expansion holds its form and the characters of its name, and nothing else. -/
theorem not_mem_text {x : Expansion} (hx : x.IsProper) {c : Char}
    (hform : c ∉ ['$', '\x7b', '\x7d']) (hname : ¬ isNameChar c) : c ∉ x.text := by
  simp only [List.mem_cons, List.not_mem_nil, or_false, not_or] at hform
  obtain ⟨hdollar, hopen, hclose⟩ := hform
  cases x with
  | positional digit =>
    have hdigit : c ≠ digit := by
      rintro rfl
      have hproper : c.isDigit := hx
      exact hname (by simp [isNameChar, Char.isAlphanum, hproper])
    simp [text, hdollar, hdigit]
  | named name =>
    have hnot : c ∉ name := fun hmem => hname (isNameChar_of_mem hx hmem)
    simp [text, hdollar, hnot]
  | braced name =>
    have hnot : c ∉ name := fun hmem => hname (isNameChar_of_mem hx hmem)
    simp [text, hdollar, hopen, hclose, hnot]

theorem readBraced?_append {name : Text} (h : isName name) (rest : Text) :
    readBraced? (name ++ '\x7d' :: rest) = some (braced name, rest) := by
  have hname : (name ++ '\x7d' :: rest).takeWhile (fun c => decide (c ≠ '\x7d')) = name := by
    apply takeWhile_append_of_stop
    · intro c hc
      have hchar := isNameChar_of_mem h hc
      have hne : c ≠ '\x7d' := by
        rintro rfl
        exact absurd hchar (by decide)
      simpa using hne
    · intro c hc
      have heq : '\x7d' = c := by simpa using hc
      simp [← heq]
  unfold readBraced?
  dsimp only
  rw [hname, List.drop_left]
  simp [h]

theorem isProper_and_endsBefore_of_readBraced? {t rest : Text} {x : Expansion}
    (h : readBraced? t = some (x, rest)) : x.IsProper ∧ x.EndsBefore rest := by
  unfold readBraced? at h
  dsimp only at h
  split at h
  · cases h
  · split at h
    · next hname =>
      cases h
      exact ⟨hname, trivial⟩
    · cases h

/-- What is read is one of the three forms, and a bare name is read to its end. -/
theorem isProper_and_endsBefore_of_read? {t rest : Text} {x : Expansion}
    (h : read? t = some (x, rest)) : x.IsProper ∧ x.EndsBefore rest := by
  unfold read? at h
  split at h
  · exact isProper_and_endsBefore_of_readBraced? h
  · next c t _ =>
    split at h
    · next hdigit =>
      cases h
      exact ⟨hdigit, trivial⟩
    · split at h
      · next hstart =>
        cases h
        have hmore : ∀ d ∈ t.takeWhile isNameChar, isNameChar d :=
          fun d hd => List.all_eq_true.1 List.all_takeWhile d hd
        have hstop : ∀ d ∈ (t.drop (t.takeWhile isNameChar).length).head?, ¬ isNameChar d := by
          intro d hd
          obtain ⟨rest, hrest⟩ := List.head?_eq_some_iff.1 hd
          simpa using head_drop_takeWhile hrest
        exact ⟨isName_cons hstart hmore, hstop⟩
      · cases h
  · cases h

theorem read?_text_append {x : Expansion} {rest : Text} (hx : x.IsProper)
    (hend : x.EndsBefore rest) : read? (x.text ++ rest) = some (x, rest) := by
  cases x with
  | positional d =>
    have hd : d.isDigit = true := hx
    have hbrace : d ≠ '\x7b' := by
      rintro rfl
      exact absurd hd (by decide)
    simp [text, read?, hd]
  | named name =>
    rcases exists_cons_of_isName hx with ⟨c, more, rfl, hstart, hmore⟩
    have hbrace : c ≠ '\x7b' := by
      rintro rfl
      exact absurd hstart (by decide)
    have hdigit := isDigit_eq_false_of_isNameStart hstart
    have hstop : (more ++ rest).takeWhile isNameChar = more := by
      apply takeWhile_append_of_stop hmore
      intro d hd
      simpa using hend d hd
    simp [text, read?, hdigit, hstart, hstop]
  | braced name =>
    have hread := readBraced?_append hx rest
    simpa [text, read?] using hread

/-- The reader reads the three forms, a bare name to its end, and nothing else. -/
theorem read?_eq_some_iff {t rest : Text} {x : Expansion} :
    read? t = some (x, rest) ↔ t = x.text ++ rest ∧ x.IsProper ∧ x.EndsBefore rest := by
  constructor
  · intro h
    exact ⟨eq_of_read? h, isProper_and_endsBefore_of_read? h⟩
  · rintro ⟨rfl, hx, hend⟩
    exact read?_text_append hx hend

end Expansion
end ShellGuard.Shell
