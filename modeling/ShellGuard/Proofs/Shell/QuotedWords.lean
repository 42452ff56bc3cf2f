import ShellGuard.Proofs.Shell.Words
import ShellGuard.Quoting

/-!
# QuotedWords — a line of quoted values reads as the values

A second reader of command lines, which knows single quotes and backslashes and builds up the words
of a line.  Blanks outside quotes separate words, and pieces that touch are one word.  Whatever else
the shell would act on outside quotes makes the line unreadable.

The proof follows the writing of a line: what stands for one character is read as that character,
so a value is read inside its quotes, and a line value by value.

## Main definitions

* `WordReader`, `WordReader.step?`, `WordReader.read?` — where a reader stands, and its way through
  a line.
* `WordReader.allWords` — the words up to where it stands.

## Main statements

* `WordReader.read?_target_edits` — between the quotes, what was written of a value is read as the
  value.
* `WordReader.read?_joinWith_quoteValue` — a line of quoted values reads as the values.
-/

namespace ShellGuard.Shell

inductive WordPlace
  | outside
  /-- Outside quotes, behind a backslash. -/
  | escaped
  | quoted
  deriving DecidableEq, Repr

/-- A reader of words: where it stands, the word it is in, and the words that ended before. -/
structure WordReader where
  place : WordPlace := .outside
  word? : Option Text := none
  words : List Text := []
  deriving DecidableEq, Repr

namespace WordReader

/-- Goes on at another place with more of the word; a word begins if there is none. -/
def goOn (r : WordReader) (place : WordPlace) (more : Text) : WordReader :=
  ⟨place, some (r.word?.getD [] ++ more), r.words⟩

def allWords (r : WordReader) : List Text :=
  r.words ++ r.word?.toList

def endWord (r : WordReader) : WordReader :=
  ⟨r.place, none, r.allWords⟩

/-- Reads one character, if it may stand where the reader is. -/
def step? (r : WordReader) (c : Char) : Option WordReader :=
  match r.place with
  | .escaped => some (r.goOn .outside [c])
  | .quoted => if c = '\'' then some (r.goOn .outside []) else some (r.goOn .quoted [c])
  | .outside =>
    if c = '\'' then some (r.goOn .quoted [])
    else if c = '\\' then some (r.goOn .escaped [])
    else if c = ' ' ∨ c = '\t' then some r.endWord
    else if c ∈ unreadable then none
    else some (r.goOn .outside [c])

def read? (r : WordReader) (line : Text) : Option WordReader :=
  line.foldlM step? r

/-- A word of three pieces and an empty one; a line with two commands is not read. -/
example :
    ({} : WordReader).read? ['a', '\'', ' ', '\'', '\\', '\'', ' ', '\'', '\''] =
        some ⟨.outside, some [], [['a', ' ', '\'']]⟩ ∧
      ({} : WordReader).read? ['a', ';', 'b'] = none := by
  decide

@[simp] theorem read?_nil (r : WordReader) : r.read? [] = some r := rfl

theorem read?_cons (r : WordReader) (c : Char) (t : Text) :
    r.read? (c :: t) = (r.step? c).bind fun r => r.read? t := by
  rw [read?, List.foldlM_cons]
  rfl

theorem read?_append (r : WordReader) (s t : Text) :
    r.read? (s ++ t) = (r.read? s).bind fun r => r.read? t := by
  rw [read?, List.foldlM_append]
  rfl

/-! ## A quoted value -/

/-- Between the quotes, what stands for a character is read as that character. -/
theorem read?_edit (word : Text) (words : List Text) (c : Char) :
    read? ⟨.quoted, some word, words⟩ (Quoting.edit c).after =
      some ⟨.quoted, some (word ++ [c]), words⟩ := by
  by_cases hc : c = '\''
  · -- the quotes are closed, a quote is read behind a backslash, and they are opened again
    subst hc
    simp [Quoting.edit, Quoting.innerQuote, read?_cons, step?, goOn]
  · simp [Quoting.edit, Edit.keepChar, hc, read?_cons, step?, goOn]

/-- Between the quotes, what was written of a value is read as the value. -/
theorem read?_target_edits (word : Text) (words : List Text) (value : Text) :
    read? ⟨.quoted, some word, words⟩ (Edit.target (Quoting.edits value)) =
      some ⟨.quoted, some (word ++ value), words⟩ := by
  induction value generalizing word with
  | nil => simp [Quoting.edits]
  | cons c value ih =>
    have htarget : Edit.target (Quoting.edits (c :: value)) =
        (Quoting.edit c).after ++ Edit.target (Quoting.edits value) := rfl
    rw [htarget, read?_append, read?_edit, Option.bind_some, ih, List.append_assoc,
      List.singleton_append]

/-- A quoted value is read as one word, which begins and ends with it. -/
theorem read?_quoteValue (words : List Text) (value : Option Text) :
    read? ⟨.outside, none, words⟩ (quoteValue value) =
      some ⟨.outside, some (value.getD []), words⟩ := by
  have hopen : step? ⟨.outside, none, words⟩ '\'' = some ⟨.quoted, some [], words⟩ := rfl
  have hclose : read? ⟨.quoted, some (value.getD []), words⟩ ['\''] =
      some ⟨.outside, some (value.getD []), words⟩ := by
    simp [read?_cons, step?, goOn]
  have htext : quoteValue value =
      '\'' :: (Edit.target (Quoting.edits (value.getD [])) ++ ['\'']) := rfl
  rw [htext, read?_cons, hopen, Option.bind_some, read?_append, read?_target_edits,
    Option.bind_some, List.nil_append, hclose]

/-! ## Lines of quoted values -/

theorem exists_read?_joinWith (words : List Text) (values : List (Option Text)) :
    ∃ r, read? ⟨.outside, none, words⟩ (Text.joinWith [' '] (values.map quoteValue)) = some r ∧
      r.place = .outside ∧ r.allWords = words ++ values.map fun value => value.getD [] := by
  induction values generalizing words with
  | nil => exact ⟨⟨.outside, none, words⟩, rfl, rfl, by simp [allWords]⟩
  | cons value values ih =>
    cases values with
    | nil =>
      refine ⟨⟨.outside, some (value.getD []), words⟩, ?_, rfl, by simp [allWords]⟩
      simpa using read?_quoteValue words value
    | cons next values =>
      -- the blank ends the word, and the rest of the line is read behind it
      obtain ⟨r, hread, hplace, hwords⟩ := ih (words ++ [value.getD []])
      have hblank : read? ⟨.outside, some (value.getD []), words⟩ [' '] =
          some ⟨.outside, none, words ++ [value.getD []]⟩ := by
        simp [read?_cons, step?, endWord, allWords]
      refine ⟨r, ?_, hplace, by simpa using hwords⟩
      rw [List.map_cons, List.map_cons, Text.joinWith_cons_cons, List.append_assoc, read?_append,
        read?_quoteValue, Option.bind_some, read?_append, hblank, Option.bind_some]
      exact hread

/--
A line of quoted values with blanks between them can be read.  It ends outside quotes, and its words
are the values, each at its place; a missing value is an empty word.
-/
theorem read?_joinWith_quoteValue (values : List (Option Text)) :
    ∃ r, ({} : WordReader).read? (Text.joinWith [' '] (values.map quoteValue)) = some r ∧
      r.place = .outside ∧ r.allWords = values.map fun value => value.getD [] :=
  exists_read?_joinWith [] values

end WordReader

end ShellGuard.Shell
