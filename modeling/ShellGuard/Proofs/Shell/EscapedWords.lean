import ShellGuard.Escaping
import ShellGuard.Proofs.Shell.ExpansionForms
import ShellGuard.Proofs.Shell.Words

/-!
# EscapedWords — an escaped value reads as one word

A shell that reads escaped values with blanks between them sees one word for each of them, made of
the value's own parts.  The proof goes edit by edit: each of them writes what reads as one part, and
what it writes never joins with what comes behind.

## Main statements

* `longestLead?_isReference` — the expansions that escaping keeps are the references that the shell
  reads.
* `lex?_target_edits` — an escaped value reads as its parts, whatever comes behind it.
* `words?_joinWith_escape` — a line of escaped values reads as one word for each value.
-/

namespace ShellGuard.Shell

open Expansion

/-! ## References and expansions -/

theorem isVariable_eq_isName (name : Text) : isVariable name = isName name := by
  cases name <;> rfl

theorem isReference_iff {form : Text} :
    isReference form ↔ ∃ x : Expansion, x.IsProper ∧ x.text = '$' :: form := by
  simp only [isReference, isVariable_eq_isName, Bool.or_eq_true, Bool.and_eq_true,
    decide_eq_true_eq]
  constructor
  · rintro ((hname | ⟨hlength, hdigit⟩) | ⟨⟨hopen, hclose⟩, hname⟩)
    · exact ⟨named form, hname, rfl⟩
    · obtain ⟨d, rfl⟩ := List.length_eq_one_iff.1 hlength
      exact ⟨positional d, by simpa [IsProper] using hdigit, rfl⟩
    · obtain ⟨more, rfl⟩ := List.head?_eq_some_iff.1 hopen
      -- the closing brace is not the opening one, so it ends what stands behind that
      have hmore : more.getLast? = some '\x7d' := by
        cases more with
        | nil => exact absurd hclose (by decide)
        | cons d more => simpa using hclose
      obtain ⟨name, rfl⟩ := List.getLast?_eq_some_iff.1 hmore
      refine ⟨braced name, by simpa [IsProper] using hname, ?_⟩
      simp [text]
  · rintro ⟨x, hx, htext⟩
    cases x with
    | positional d =>
      have hform : form = [d] := by simpa [text] using htext.symm
      have hd : d.isDigit = true := hx
      simp [hform, hd]
    | named name =>
      have hform : form = name := by simpa [text] using htext.symm
      have hname : isName name = true := hx
      simp [hform, hname]
    | braced name =>
      have hform : form = '\x7b' :: (name ++ ['\x7d']) := by simpa [text] using htext.symm
      have hname : isName name = true := hx
      refine .inr ?_
      simp [hform, hname, List.getLast?_cons]

theorem exists_text_eq_cons (x : Expansion) : ∃ form, x.text = '$' :: form := by
  cases x with
  | positional d => exact ⟨[d], rfl⟩
  | named name => exact ⟨name, rfl⟩
  | braced name => exact ⟨'\x7b' :: (name ++ ['\x7d']), rfl⟩

theorem isName_concat {name : Text} {c : Char} (h : isName name) (hc : isNameChar c) :
    isName (name ++ [c]) := by
  rcases exists_cons_of_isName h with ⟨d, more, rfl, hstart, hmore⟩
  refine isName_cons hstart ?_
  intro b hb
  rcases List.mem_append.1 hb with hb | hb
  · exact hmore b hb
  · rw [List.mem_singleton.1 hb]
    exact hc

/-- The longest reference behind a dollar sign is the expansion that is read there. -/
theorem longestLead?_isReference (t : Text) :
    longestLead? isReference t = (read? ('$' :: t)).map fun r => r.1.text.tail := by
  cases hlead : longestLead? isReference t with
  | none =>
    -- an expansion would be a reference that the text starts with
    cases hread : read? ('$' :: t) with
    | none => rfl
    | some r =>
      obtain ⟨x, rest⟩ := r
      rcases read?_eq_some_iff.1 hread with ⟨htext, hx, -⟩
      obtain ⟨form, hform⟩ := exists_text_eq_cons x
      have ht : t = form ++ rest := by simpa [hform] using htext
      have hnone := longestLead?_eq_none hlead ⟨rest, ht.symm⟩
      rw [isReference_iff.2 ⟨x, hx, hform⟩] at hnone
      cases hnone
  | some form =>
    rcases longestLead?_eq_some hlead with ⟨hform, ⟨rest, rfl⟩, hmax⟩
    obtain ⟨x, hx, htext⟩ := isReference_iff.1 hform
    have hend : x.EndsBefore rest := by
      cases x with
      | positional d => trivial
      | braced name => trivial
      | named name =>
        -- one more name character would make a longer reference
        obtain rfl : name = form := by simpa [text] using htext
        intro c hc hchar
        obtain ⟨more, rfl⟩ := List.head?_eq_some_iff.1 hc
        have hlonger : isReference (name ++ [c]) :=
          isReference_iff.2 ⟨named (name ++ [c]), isName_concat hx hchar, rfl⟩
        have hle := hmax (name ++ [c]) ⟨more, by simp⟩ hlonger
        rw [List.length_append, List.length_singleton] at hle
        omega
    have hread := read?_text_append hx hend
    rw [htext, List.cons_append] at hread
    simp [hread, htext]

theorem longestLead?_append {x : Expansion} {form behind : Text} (hx : x.IsProper)
    (hform : x.text = '$' :: form) (hend : x.EndsBefore behind) :
    longestLead? isReference (form ++ behind) = some form := by
  have hread := read?_text_append hx hend
  rw [hform, List.cons_append] at hread
  simp [longestLead?_isReference, hread, hform]

/-! ## What the shell sees, edit by edit -/

theorem lex?_backslash (c : Char) (t : Text) :
    lex? ('\\' :: c :: t) = (lex? t).map (.literal c :: ·) := by
  rw [lex?]

theorem lex?_expansion {form behind : Text}
    (h : longestLead? isReference (form ++ behind) = some form) :
    lex? ('$' :: (form ++ behind)) = (lex? behind).map (.expansion form :: ·) := by
  rw [lex?, h]
  simp

theorem lex?_blank (t : Text) : lex? (' ' :: t) = (lex? t).map (.blank :: ·) := by
  rw [lex?] <;> simp

theorem lex?_literal {c : Char} (h : ¬ (c = '$' ∨ isShellSpecial c)) (hbreak : ¬ isLineBreak c)
    (t : Text) : lex? (c :: t) = (lex? t).map (.literal c :: ·) := by
  simp [isShellSpecial, shellSpecial, commandMeta, isLineBreak] at h hbreak
  rw [lex?]
  · simp [unreadable, h, hbreak]
  · intro d t heq
    simp [h] at heq
  · simp [h]

/-! ## What the value is made of -/

theorem parts_expansion {form rest : Text}
    (h : longestLead? isReference (form ++ rest) = some form) :
    parts ('$' :: (form ++ rest)) = .expansion form :: parts rest := by
  rw [parts, h]
  simp

theorem parts_literal {c : Char} {t : Text} (h : read? (c :: t) = none)
    (hbreak : ¬ isLineBreak c) : parts (c :: t) = .literal c :: parts t := by
  have hbreak' : ¬ c = '\n' ∧ ¬ c = '\r' := by simpa [isLineBreak] using hbreak
  by_cases hc : c = '$'
  · subst hc
    rw [parts, longestLead?_isReference, h]
    rfl
  · rw [parts] <;> simp [hc, hbreak']

/-! ## Escaped values -/

theorem head?_cons_stops {d : Char} (hd : ¬ isNameChar d) (t : Text) :
    ∀ c ∈ (d :: t).head?, ¬ isNameChar c := by
  intro c hc
  obtain rfl : d = c := by simpa using hc
  exact hd

theorem head?_target_edits_stops {t behind : Text} (ht : ∀ c ∈ t.head?, ¬ isNameChar c)
    (hbehind : ∀ c ∈ behind.head?, ¬ isNameChar c) :
    ∀ c ∈ (Edit.target (Escaping.edits t) ++ behind).head?, ¬ isNameChar c := by
  have hbackslash : ¬ isNameChar '\\' := by decide
  fun_cases Escaping.edits t with
  | case1 => exact hbehind
  | case2 t => exact head?_cons_stops hbackslash _
  | case3 t h => exact head?_cons_stops hbackslash _
  | case4 t => exact head?_cons_stops hbackslash _
  | case5 c t _ _ _ x rest h =>
    obtain ⟨form, hform⟩ := exists_text_eq_cons x
    rw [Edit.target_cons, Edit.after_keep, hform]
    exact head?_cons_stops (by decide) _
  | case6 c t _ _ _ h =>
    rw [Edit.target_cons, Escaping.edit]
    split
    · exact head?_cons_stops hbackslash _
    · exact head?_cons_stops (ht c rfl) _

theorem map_cons_map_append (token : Token) (tokens : List Token) (line : Option (List Token)) :
    (line.map (tokens ++ ·)).map (token :: ·) = line.map (token :: tokens ++ ·) := by
  cases line <;> rfl

theorem lex?_backslash_append (c : Char) {t behind : Text} {tokens : List Token}
    (h : lex? t = (lex? behind).map (tokens ++ ·)) :
    lex? ('\\' :: c :: t) = (lex? behind).map (.literal c :: tokens ++ ·) := by
  rw [lex?_backslash, h, map_cons_map_append]

/-- An escaped value reads as its parts, whatever stands behind it. -/
theorem lex?_target_edits (value : Text) {behind : Text}
    (hbehind : ∀ c ∈ behind.head?, ¬ isNameChar c) :
    lex? (Edit.target (Escaping.edits value) ++ behind) =
      (lex? behind).map (parts value ++ ·) := by
  fun_induction Escaping.edits value with
  | case1 => simp [parts]
  | case2 t ih =>
    have hparts : parts ('\r' :: '\n' :: t) = .literal ' ' :: parts t := by rw [parts]
    rw [hparts]
    exact lex?_backslash_append ' ' ih
  | case3 t h ih =>
    have hparts : parts ('\r' :: t) = .literal ' ' :: parts t := by
      rw [parts]
      exact h
    rw [hparts]
    exact lex?_backslash_append ' ' ih
  | case4 t ih =>
    have hparts : parts ('\n' :: t) = .literal ' ' :: parts t := by rw [parts]
    rw [hparts]
    exact lex?_backslash_append ' ' ih
  | case5 c t _ _ _ x rest h _ ih =>
    rcases read?_eq_some_iff.1 h with ⟨htext, hx, hend⟩
    -- what escaping writes of the rest does not go on with a bare name
    have hend' : x.EndsBefore (Edit.target (Escaping.edits rest) ++ behind) := by
      cases x with
      | positional d => trivial
      | braced name => trivial
      | named name => exact head?_target_edits_stops hend hbehind
    obtain ⟨form, hform⟩ := exists_text_eq_cons x
    rw [hform, List.cons_append, List.cons.injEq] at htext
    obtain ⟨rfl, rfl⟩ := htext
    rw [parts_expansion (longestLead?_append hx hform hend), ← map_cons_map_append, ← ih,
      ← lex?_expansion (longestLead?_append hx hform hend')]
    simp [hform]
  | case6 c t _ hcr hlf h ih =>
    have hbreak : ¬ isLineBreak c := by simpa [isLineBreak] using And.intro hlf hcr
    rw [parts_literal h hbreak, Edit.target_cons, Escaping.edit]
    split
    · exact lex?_backslash_append c ih
    · next hspecial =>
      rw [← map_cons_map_append, ← ih]
      exact lex?_literal hspecial hbreak _

/-! ## Lines of escaped values -/

theorem blank_not_mem_parts (value : Text) : Token.blank ∉ parts value := by
  fun_induction parts value <;> simp_all

theorem parts_ne_nil {value : Text} (h : value ≠ []) : parts value ≠ [] := by
  fun_cases parts value <;> simp_all

/-- A line of escaped values shows the parts of each value, with blanks between them. -/
theorem lex?_joinWith_escape (values : List Text) :
    lex? (Text.joinWith [' '] (values.map fun value => (escape value).text)) =
      some (List.intercalate [.blank] (values.map parts)) := by
  match values with
  | [] =>
    show lex? [] = some []
    rw [lex?]
  | [value] =>
    have hread : lex? (Edit.target (Escaping.edits value) ++ []) =
        (lex? []).map (parts value ++ ·) := lex?_target_edits value (by simp)
    simpa [lex?, escape, Outcome.ofEdits] using hread
  | value :: next :: rest =>
    have hread := lex?_target_edits value (head?_cons_stops (d := ' ') (by decide)
      (Text.joinWith [' '] ((next :: rest).map fun value => (escape value).text)))
    have ih := lex?_joinWith_escape (next :: rest)
    rw [lex?_blank, ih] at hread
    simpa [escape, Outcome.ofEdits] using hread

/--
A line of escaped values reads as one word for each value, made of the value's references and of
every other character as it is.
-/
theorem words?_joinWith_escape (values : List Text) (hvalues : ∀ value ∈ values, value ≠ []) :
    words? (Text.joinWith [' '] (values.map fun value => (escape value).text)) =
      some (values.map parts) := by
  -- no word holds a blank and none is empty, so splitting at blanks undoes the joining
  have hwords : ((List.intercalate [.blank] (values.map parts)).splitOn .blank).filter (· ≠ []) =
      values.map parts := by
    by_cases hne : values = []
    · subst hne
      rfl
    · rw [List.splitOn_intercalate Token.blank ?_ (by simpa using hne)]
      · apply List.filter_eq_self.2
        intro word hword
        obtain ⟨value, hvalue, rfl⟩ := List.mem_map.1 hword
        simpa using parts_ne_nil (hvalues value hvalue)
      · intro word hword
        obtain ⟨value, -, rfl⟩ := List.mem_map.1 hword
        exact blank_not_mem_parts value
  rw [words?, lex?_joinWith_escape, Option.map_some, hwords]

/-- A reference, one that was never finished behind a backslash, and a line break. -/
theorem words?_joinWith_escape_unfinished :
    (∀ value ∈ [['$', 'A'], ['\\', '$', '\x7b', 'B'], ['$', '1', '\r', '\n']], value ≠ []) ∧
      words? (Text.joinWith [' '] ([['$', 'A'], ['\\', '$', '\x7b', 'B'], ['$', '1', '\r', '\n']].map
        fun value => (escape value).text)) =
      some [[.expansion ['A']], [.literal '\\', .literal '$', .literal '\x7b', .literal 'B'],
        [.expansion ['1'], .literal ' ']] := by
  have hvalues : ∀ value ∈ [['$', 'A'], ['\\', '$', '\x7b', 'B'], ['$', '1', '\r', '\n']],
      value ≠ [] := by
    decide
  refine ⟨hvalues, (words?_joinWith_escape _ hvalues).trans ?_⟩
  decide +kernel

end ShellGuard.Shell
