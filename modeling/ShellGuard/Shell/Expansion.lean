import ShellGuard.Text.Basic

/-!
# Variable expansions — the forms of `$` that a value may keep

Three forms only replace a variable by its value: `$NAME`, `${NAME}` and `$0` to `$9`.  Everything
else that starts with a dollar sign could run a command, or is none of the three.

## Main definitions

* `Expansion`, `Expansion.text` — an expansion and its written form.
* `Expansion.read?` — the expansion that a text starts with; `eq_of_read?` says that the written
  form and the rest make up the text.
* `Expansion.size?` — the number of bytes of that expansion.
-/

namespace ShellGuard.Shell

def isNameStart (c : Char) : Bool :=
  c.isAlpha || c = '_'

def isNameChar (c : Char) : Bool :=
  c.isAlphanum || c = '_'

def isName : Text → Bool
  | [] => false
  | c :: rest => isNameStart c && rest.all isNameChar

/-- A reference to a variable. -/
inductive Expansion
  | positional (digit : Char)
  | named (name : Text)
  | braced (name : Text)
  deriving DecidableEq, Repr

namespace Expansion

def text : Expansion → Text
  | positional digit => ['$', digit]
  | named name => '$' :: name
  | braced name => ['$', '\x7b'] ++ name ++ ['\x7d']

/-- The name before the first closing brace, and the text behind the brace. -/
def readBraced? (t : Text) : Option (Expansion × Text) :=
  let name := t.takeWhile (· ≠ '\x7d')
  match t.drop name.length with
  | [] => none
  | _ :: rest => if isName name then some (braced name, rest) else none

def read? : Text → Option (Expansion × Text)
  | '$' :: '\x7b' :: t => readBraced? t
  | '$' :: c :: t =>
    if c.isDigit then some (positional c, t)
    else if isNameStart c then
      let more := t.takeWhile isNameChar
      some (named (c :: more), t.drop more.length)
    else none
  | _ => none

/-- The number of bytes of the expansion that a text starts with. -/
def size? : Text → Option Nat
  | '$' :: '\x7b' :: t =>
    let name := t.takeWhile (· ≠ '\x7d')
    -- The name counts with the dollar sign and both braces, if there is a closing one.
    if name.length < t.length ∧ isName name then some (Text.byteSize name + 3) else none
  | '$' :: c :: t =>
    if c.isDigit then some 2
    else if isNameStart c then some (1 + ((c :: t).takeWhile isNameChar).length)
    else none
  | _ => none

theorem takeWhile_append_drop (p : Char → Bool) (t : Text) :
    t.takeWhile p ++ t.drop (t.takeWhile p).length = t := by
  induction t with
  | nil => rfl
  | cons c t ih => by_cases h : p c <;> simp [h, ih]

theorem head_drop_takeWhile {p : Char → Bool} {t rest : Text} {c : Char}
    (h : t.drop (t.takeWhile p).length = c :: rest) : p c = false := by
  induction t with
  | nil => simp at h
  | cons d t ih =>
    by_cases hd : p d
    · rw [List.takeWhile_cons_of_pos hd] at h
      exact ih (by simpa using h)
    · rw [List.takeWhile_cons_of_neg (by simpa using hd)] at h
      simp only [List.length_nil, List.drop_zero, List.cons.injEq] at h
      rw [← h.1]
      simpa using hd

theorem eq_of_readBraced? {t rest : Text} {e : Expansion} (h : readBraced? t = some (e, rest)) :
    ['$', '\x7b'] ++ t = e.text ++ rest := by
  unfold readBraced? at h
  dsimp only at h
  split at h
  · simp at h
  · next c behind hdrop =>
    split at h
    · obtain ⟨rfl, rfl⟩ := Prod.mk.inj (Option.some.inj h)
      have hc : c = '\x7d' := by simpa using head_drop_takeWhile hdrop
      have := takeWhile_append_drop (fun x => decide (x ≠ '\x7d')) t
      rw [hdrop, hc] at this
      simp only [text, List.append_assoc, List.cons_append, List.nil_append]
      rw [this]
    · simp at h

/-- What is read and what is left make up the text. -/
theorem eq_of_read? {t rest : Text} {e : Expansion} (h : read? t = some (e, rest)) :
    t = e.text ++ rest := by
  unfold read? at h
  split at h
  · exact eq_of_readBraced? h
  · split at h
    · obtain ⟨rfl, rfl⟩ := Prod.mk.inj (Option.some.inj h)
      rfl
    · split at h
      · next t _ _ _ =>
        obtain ⟨rfl, rfl⟩ := Prod.mk.inj (Option.some.inj h)
        simpa [text] using (takeWhile_append_drop isNameChar t).symm
      · simp at h
  · simp at h

/-- An expansion takes up room, so what is left is shorter. -/
theorem length_lt_of_read? {t rest : Text} {e : Expansion} (h : read? t = some (e, rest)) :
    rest.length < t.length := by
  rw [eq_of_read? h]
  cases e <;> simp only [text, List.cons_append, List.length_append, List.length_cons] <;> omega

end Expansion

end ShellGuard.Shell
