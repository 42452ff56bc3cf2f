import ShellGuard.Record

/-!
# Edits — a transform as a list of what it keeps and what it replaces

A transform goes through its input once and says for each stretch of it whether it stays or gives
way to other text.  The result, the record of what was altered and the input itself are three views
of that one list.

## Main definitions

* `Edit` — a stretch that stays, or a symbol with its replacement.
* `Edit.source`, `Edit.target`, `Edit.symbols` — the views of a list of edits.
* `Edit.Divide` — edits that make up a text, and replace no empty symbol.
* `Outcome`, `Outcome.ofEdits` — the text and the record that a transform answers.
* `Handed`, `Outcome.handed` — the value itself or new text, as a caller gets it back.
-/

namespace ShellGuard

/-- A stretch of the input and what becomes of it. -/
inductive Edit
  /-- The text stays as it is. -/
  | keep (text : Text)
  /-- The symbol gives way to another text, and is counted. -/
  | replace (symbol text : Text)
  deriving DecidableEq, Repr

namespace Edit

/-- The stretch of the input. -/
def before : Edit → Text
  | keep text => text
  | replace symbol _ => symbol

/-- The stretch of the output. -/
def after : Edit → Text
  | keep text => text
  | replace _ text => text

/-- The symbol that is counted, if one is replaced. -/
def symbol? : Edit → Option Text
  | keep _ => none
  | replace symbol _ => some symbol

def source (edits : List Edit) : Text :=
  edits.flatMap before

def target (edits : List Edit) : Text :=
  edits.flatMap after

def symbols (edits : List Edit) : List Text :=
  edits.filterMap symbol?

@[simp] theorem before_keep (text : Text) : (keep text).before = text := rfl

@[simp] theorem before_replace (symbol text : Text) : (replace symbol text).before = symbol := rfl

@[simp] theorem after_keep (text : Text) : (keep text).after = text := rfl

@[simp] theorem after_replace (symbol text : Text) : (replace symbol text).after = text := rfl

@[simp] theorem source_nil : source [] = [] := rfl

@[simp] theorem source_cons (e : Edit) (edits : List Edit) :
    source (e :: edits) = e.before ++ source edits := rfl

@[simp] theorem source_append (a b : List Edit) : source (a ++ b) = source a ++ source b :=
  List.flatMap_append

@[simp] theorem target_nil : target [] = [] := rfl

@[simp] theorem target_cons (e : Edit) (edits : List Edit) :
    target (e :: edits) = e.after ++ target edits := rfl

@[simp] theorem target_append (a b : List Edit) : target (a ++ b) = target a ++ target b :=
  List.flatMap_append

@[simp] theorem symbols_nil : symbols [] = [] := rfl

@[simp] theorem symbols_keep_cons (text : Text) (edits : List Edit) :
    symbols (keep text :: edits) = symbols edits := rfl

@[simp] theorem symbols_replace_cons (symbol text : Text) (edits : List Edit) :
    symbols (replace symbol text :: edits) = symbol :: symbols edits := rfl

@[simp] theorem symbols_append (a b : List Edit) : symbols (a ++ b) = symbols a ++ symbols b :=
  List.filterMap_append

/-- Where no symbol is replaced, nothing changes. -/
theorem target_eq_source {edits : List Edit} (h : symbols edits = []) :
    target edits = source edits := by
  induction edits with
  | nil => rfl
  | cons e edits ih =>
    cases e with
    | keep text => rw [target_cons, source_cons, ih h, after_keep, before_keep]
    | replace symbol text => cases h

/-- What was edited part by part is the parts with what stood between them. -/
theorem source_intercalate (sep : Text) (parts : List (List Edit)) :
    source (List.intercalate [keep sep] parts) = Text.joinWith sep (parts.map source) := by
  match parts with
  | [] => rfl
  | [part] => simp [Text.joinWith, List.intercalate]
  | part :: next :: rest =>
    have ih := source_intercalate sep (next :: rest)
    simp only [Text.joinWith, List.intercalate] at ih ⊢
    simp [List.intersperse, ih]

/-- Is the symbol that gives way, if one does, a stretch of at least one character? -/
def Proper : Edit → Prop
  | keep _ => True
  | replace symbol _ => symbol ≠ []

theorem proper_of_before {edit : Edit} (h : edit.before ≠ []) : edit.Proper := by
  cases edit with
  | keep text => trivial
  | replace symbol text => exact h

/-- Do the edits make up the text, and replace no empty symbol? -/
structure Divide (edits : List Edit) (t : Text) : Prop where
  source : source edits = t
  proper : ∀ edit ∈ edits, edit.Proper

theorem divide_nil : Divide [] [] := ⟨rfl, List.forall_mem_nil _⟩

theorem Divide.cons {edits : List Edit} {t : Text} (h : Divide edits t) {edit : Edit}
    (hedit : edit.Proper) : Divide (edit :: edits) (edit.before ++ t) :=
  ⟨by rw [source_cons, h.source], List.forall_mem_cons.2 ⟨hedit, h.proper⟩⟩

theorem Divide.cons_char {edits : List Edit} {t : Text} (h : Divide edits t) {edit : Edit}
    {c : Char} (hedit : edit.before = [c]) : Divide (edit :: edits) (c :: t) := by
  have hproper : edit.Proper := proper_of_before (hedit ▸ List.cons_ne_nil c [])
  simpa [hedit] using h.cons hproper

/-- Puts a backslash in front of a character. -/
def escape (c : Char) : Edit :=
  replace [c] ['\\', c]

def keepChar (c : Char) : Edit :=
  keep [c]

end Edit

/-- What a transform answers: a text, and the record of what was altered, if anything was. -/
structure Outcome where
  text : Text
  record? : Option Record
  deriving DecidableEq, Repr

/-- What a caller gets back: the value that it gave, or new text. -/
inductive Handed
  | given
  | made (text : Text)
  deriving DecidableEq, Repr

def Handed.text (value : Text) : Handed → Text
  | given => value
  | made text => text

namespace Outcome

def isAltered (o : Outcome) : Bool :=
  o.record?.isSome

/-- The output of the edits with the record of the symbols that were replaced. -/
def ofEdits (edits : List Edit) : Outcome :=
  ⟨Edit.target edits, Record.ofSymbols? (Edit.symbols edits)⟩

/-- A value of which nothing was altered is handed back itself. -/
def handed (o : Outcome) : Handed :=
  if o.isAltered then .made o.text else .given

end Outcome

end ShellGuard
