/-!
# Text — lists of characters and their UTF-8 size

Every value the library reads or writes is a list of Unicode scalar values.  Lists give the
transforms structural recursion, so a law about a transform is an induction over its input.

## Main definitions

* `Text` — a list of characters; string literals are accepted where text is expected.
* `Text.byteSize` — the size of a text in UTF-8.
* `Text.dropLead?` — what follows a given beginning, characterised by `dropLead?_eq_some_iff`.
* `Text.precedes` — the order of texts, which is that of their octets in UTF-8, too.
* `Text.dropLineEnd` — a text without its last line break.
-/

namespace ShellGuard

/-- Text is the list of its characters. -/
abbrev Text := List Char

instance : Coe String Text := ⟨String.toList⟩

namespace Text

def byteSize (t : Text) : Nat :=
  t.foldr (fun c n => c.utf8Size + n) 0

@[simp] theorem byteSize_nil : byteSize [] = 0 := rfl

@[simp] theorem byteSize_cons (c : Char) (t : Text) :
    byteSize (c :: t) = c.utf8Size + byteSize t := rfl

@[simp] theorem byteSize_append (s t : Text) : byteSize (s ++ t) = byteSize s + byteSize t := by
  induction s with
  | nil => simp
  | cons c s ih => rw [List.cons_append, byteSize_cons, byteSize_cons, ih, Nat.add_assoc]

def ofNat (n : Nat) : Text :=
  Nat.toDigits 10 n

def concat (parts : List Text) : Text :=
  parts.flatten

/-- What follows `lead` in `t`, when `t` starts with `lead`. -/
def dropLead? : (lead t : Text) → Option Text
  | [], t => some t
  | _ :: _, [] => none
  | l :: lead, c :: t => if l = c then dropLead? lead t else none

theorem dropLead?_eq_some_iff {lead t rest : Text} :
    dropLead? lead t = some rest ↔ t = lead ++ rest := by
  induction lead generalizing t with
  | nil => simp [dropLead?, eq_comm]
  | cons l lead ih =>
    cases t with
    | nil => simp [dropLead?]
    | cons c t =>
      by_cases h : l = c
      · subst h; simp [dropLead?, ih]
      · simp [dropLead?, h, Ne.symm h]

theorem dropLead?_append (lead rest : Text) : dropLead? lead (lead ++ rest) = some rest :=
  dropLead?_eq_some_iff.2 rfl

/-- What is left of `lead ++ rest` is shorter, for a non-empty `lead`. -/
theorem length_lt_of_dropLead? {lead t rest : Text} (hlead : lead ≠ [])
    (h : dropLead? lead t = some rest) : rest.length < t.length := by
  have hpos := List.length_pos_iff.2 hlead
  rw [dropLead?_eq_some_iff.1 h, List.length_append]
  omega

def startsWith (lead t : Text) : Bool :=
  (dropLead? lead t).isSome

/-- Does `s` come before `t`?  The first difference decides, and a text comes before longer ones. -/
def precedes : (s t : Text) → Bool
  | _, [] => false
  | [], _ :: _ => true
  | a :: s, b :: t => a.toNat < b.toNat || (a = b && precedes s t)

theorem precedes_trans {s t u : Text} (hst : precedes s t) (htu : precedes t u) :
    precedes s u := by
  induction s generalizing t u with
  | nil =>
    cases t <;> cases u <;> simp_all [precedes]
  | cons a s ih =>
    cases t with
    | nil => simp [precedes] at hst
    | cons b t =>
      cases u with
      | nil => simp [precedes] at htu
      | cons c u =>
        simp only [precedes, Bool.or_eq_true, decide_eq_true_eq, Bool.and_eq_true] at hst htu ⊢
        rcases hst with hab | ⟨rfl, hst⟩
        · rcases htu with hbc | ⟨rfl, -⟩
          · exact .inl (Nat.lt_trans hab hbc)
          · exact .inl hab
        · rcases htu with hbc | ⟨rfl, htu⟩
          · exact .inl hbc
          · exact .inr ⟨rfl, ih hst htu⟩

theorem not_precedes_self (s : Text) : ¬ precedes s s := by
  induction s with
  | nil => simp [precedes]
  | cons a s ih => simpa [precedes] using ih

/-- Of two different texts one comes before the other. -/
theorem precedes_of_not_precedes {s t : Text} (h : ¬ precedes s t) (hne : s ≠ t) :
    precedes t s := by
  induction s generalizing t with
  | nil => cases t <;> simp_all [precedes]
  | cons a s ih =>
    cases t with
    | nil => rfl
    | cons b t =>
      simp only [precedes, Bool.or_eq_true, decide_eq_true_eq, Bool.and_eq_true, not_or,
        not_and] at h ⊢
      rcases Nat.lt_or_eq_of_le (Nat.le_of_not_lt h.1) with hlt | heq
      · exact .inl hlt
      · obtain rfl : b = a := Char.toNat_inj.1 heq
        exact .inr ⟨rfl, ih (h.2 rfl) fun hst => hne (by rw [hst])⟩

/-- `t` without its last line break, a line feed with the carriage return before it. -/
def dropLineEnd (t : Text) : Text :=
  match t.reverse with
  | '\n' :: '\r' :: rest => rest.reverse
  | '\n' :: rest => rest.reverse
  | _ => t

def joinWith (sep : Text) (parts : List Text) : Text :=
  List.intercalate sep parts

@[simp] theorem joinWith_singleton (sep part : Text) : joinWith sep [part] = part :=
  List.intercalate_singleton

@[simp] theorem joinWith_cons_cons (sep part next : Text) (parts : List Text) :
    joinWith sep (part :: next :: parts) = part ++ sep ++ joinWith sep (next :: parts) :=
  List.intercalate_cons_cons

end Text

end ShellGuard
