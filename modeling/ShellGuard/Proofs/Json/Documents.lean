import ShellGuard.Proofs.Json.Literals

/-!
# Documents — values are read as they were written

The text of a value begins with a character that tells its kind, and nothing that may stand behind
it could belong to it.  So the reader never has to guess, and reads a value back from its text
whatever follows.  The induction is over the value; what the reader needs as fuel is no more than
the length of the text.

## Main definitions

* `Json.Plain` — values whose strings are texts and whose numbers are written in digits only.
* `Json.Begins` — texts that begin with a part, and not with blanks or a closing bracket.

## Main statements

* `Json.read?_render` — a plain value is read from its text, in front of a text that ends a number.
* `Json.ofDocument?_render` — a plain value is the document that its text is.
* `Json.controlFree_render` — the text of a plain value holds no control character.
-/

namespace ShellGuard
namespace Json

/-! ## Plain values -/

mutual

/-- Is every string in the value a text, and every number written in digits only? -/
def Plain : Json → Prop
  | .null => True
  | .bool _ => True
  | .natural _ => True
  | .number _ => False
  | .string t? => t?.isSome
  | .array items => PlainItems items
  | .object fields => PlainFields fields

def PlainItems : List Json → Prop
  | [] => True
  | item :: items => item.Plain ∧ PlainItems items

def PlainFields : List (Option Text × Json) → Prop
  | [] => True
  | (name, value) :: fields => name.isSome ∧ value.Plain ∧ PlainFields fields

end

/-! ## How parts begin -/

@[simp] theorem commaSeparated_singleton (part : Text) : commaSeparated [part] = part :=
  Text.joinWith_singleton [','] part

@[simp] theorem commaSeparated_cons_cons (part next : Text) (parts : List Text) :
    commaSeparated (part :: next :: parts) = part ++ ',' :: commaSeparated (next :: parts) := by
  simp [commaSeparated]

def isBlank (c : Char) : Bool :=
  c = ' ' || c = '\t' || c = '\n' || c = '\r'

theorem skipBlanks_cons {c : Char} (h : isBlank c = false) (t : Text) :
    skipBlanks (c :: t) = c :: t :=
  List.dropWhile_cons_of_neg (by simpa [isBlank] using h)

/-- Does the text begin with neither a blank nor the closing bracket? -/
def Begins (close : Char) (t : Text) : Prop :=
  ∃ c u, t = c :: u ∧ isBlank c = false ∧ c ≠ close

variable {close : Char}

theorem Begins.append {t : Text} (h : Begins close t) (rest : Text) : Begins close (t ++ rest) := by
  obtain ⟨c, u, rfl, hblank, hclose⟩ := h
  exact ⟨c, u ++ rest, rfl, hblank, hclose⟩

theorem Begins.commaSeparated {part : Text} (h : Begins close part) (parts : List Text) :
    Begins close (commaSeparated (part :: parts)) := by
  cases parts with
  | nil => simpa using h
  | cons next parts => simpa using h.append (',' :: Json.commaSeparated (next :: parts))

theorem begins_digit {c : Char} (hc : c.isDigit) (hclose : close.isDigit = false) (t : Text) :
    Begins close (c :: t) := by
  have hne : ∀ d, d.isDigit = false → c ≠ d := by
    rintro d hd rfl
    simp [hd] at hc
  refine ⟨c, t, rfl, ?_, hne close hclose⟩
  simp [isBlank, hne ' ' rfl, hne '\t' rfl, hne '\n' rfl, hne '\r' rfl]

theorem begins_quoted (t : Text) (hclose : '"' ≠ close) : Begins close (quoted t) :=
  ⟨'"', _, rfl, rfl, hclose⟩

/-- A value begins with neither a blank nor the bracket that closes an array. -/
theorem begins_render {j : Json} (hj : j.Plain) : Begins ']' (render j) := by
  cases j with
  | null => exact ⟨'n', _, rfl, rfl, by decide⟩
  | bool value =>
    cases value with
    | false => exact ⟨'f', _, rfl, rfl, by decide⟩
    | true => exact ⟨'t', _, rfl, rfl, by decide⟩
  | natural n =>
    obtain ⟨c, digits, hcons, hc⟩ := exists_cons_ofNat n
    rw [render, hcons]
    exact begins_digit hc rfl digits
  | number literal => exact hj.elim
  | string t? => exact begins_quoted _ (by decide)
  | array items => exact ⟨'[', _, rfl, rfl, by decide⟩
  | object fields => exact ⟨'\x7b', _, rfl, rfl, by decide⟩

theorem begins_renderItems {item : Json} (hitem : item.Plain) (items : List Json) :
    Begins ']' (commaSeparated (renderItems (item :: items))) :=
  (begins_render hitem).commaSeparated (renderItems items)

theorem begins_renderFields (field : Option Text × Json) (fields : List (Option Text × Json)) :
    Begins '\x7d' (commaSeparated (renderFields (field :: fields))) := by
  obtain ⟨name, value⟩ := field
  have hname : Begins '\x7d' (quoted (name.getD [])) := begins_quoted _ (by decide)
  exact ((hname.append [':']).append (render value)).commaSeparated (renderFields fields)

/-- A number ends where the next part begins, or the whole that it is a part of ends. -/
theorem endsNumber_cons {c : Char} (h : c ∈ [',', ']', '\x7d']) (t : Text) :
    EndsNumber (c :: t) := by
  rintro d ⟨⟩
  simp only [List.mem_cons, List.not_mem_nil, or_false] at h
  rcases h with rfl | rfl | rfl <;> decide

/-! ## The reader, step by step -/

variable (fuel : Nat)

theorem read?_digit {c : Char} (hc : c.isDigit) (t : Text) :
    read? (fuel + 1) (c :: t) = readNumber? (c :: t) := by
  have hne : ∀ d, d.isDigit = false → c ≠ d := by
    rintro d hd rfl
    simp [hd] at hc
  have hbegins : Begins ']' (c :: t) := begins_digit hc rfl t
  obtain ⟨d, u, hcons, hblank, -⟩ := hbegins
  obtain ⟨rfl, -⟩ := List.cons.inj hcons
  rw [read?, skipBlanks_cons hblank]
  simp [hne 'n' rfl, hne 't' rfl, hne 'f' rfl, hne '"' rfl, hne '[' rfl, hne '\x7b' rfl]

theorem read?_quoted (t rest : Text) :
    read? (fuel + 1) (quoted t ++ rest) = some (.string (some t), rest) := by
  obtain ⟨u, htext, hread⟩ := readString?_quoted t rest
  rw [htext, read?, skipBlanks_cons rfl]
  simp only [hread]
  rfl

theorem read?_array_nil (t : Text) :
    read? (fuel + 1) ('[' :: ']' :: t) = some (.array [], t) := by
  rw [read?, skipBlanks_cons rfl]
  simp [skipBlanks_cons (c := ']') rfl]

theorem read?_array {t : Text} (h : Begins ']' t) :
    read? (fuel + 1) ('[' :: t) =
      (readItems? fuel t).map fun read => (.array read.1, read.2) := by
  obtain ⟨c, u, rfl, hblank, hclose⟩ := h
  rw [read?, skipBlanks_cons rfl]
  simp [skipBlanks_cons hblank, hclose]

theorem read?_object_nil (t : Text) :
    read? (fuel + 1) ('\x7b' :: '\x7d' :: t) = some (.object [], t) := by
  rw [read?, skipBlanks_cons rfl]
  simp [skipBlanks_cons (c := '\x7d') rfl]

theorem read?_object {t : Text} (h : Begins '\x7d' t) :
    read? (fuel + 1) ('\x7b' :: t) =
      (readFields? fuel t).map fun read => (.object read.1, read.2) := by
  obtain ⟨c, u, rfl, hblank, hclose⟩ := h
  rw [read?, skipBlanks_cons rfl]
  simp [skipBlanks_cons hblank, hclose]

variable {fuel}

theorem readItems?_last {t rest : Text} {item : Json}
    (hitem : read? fuel t = some (item, ']' :: rest)) :
    readItems? (fuel + 1) t = some ([item], rest) := by
  rw [readItems?, hitem]
  simp [skipBlanks_cons (c := ']') rfl]

theorem readItems?_more {t more rest : Text} {item : Json} {items : List Json}
    (hitem : read? fuel t = some (item, ',' :: more))
    (hitems : readItems? fuel more = some (items, rest)) :
    readItems? (fuel + 1) t = some (item :: items, rest) := by
  rw [readItems?, hitem]
  simp [skipBlanks_cons (c := ',') rfl, hitems]

theorem readFields?_last (name : Text) {t rest : Text} {value : Json}
    (hvalue : read? fuel t = some (value, '\x7d' :: rest)) :
    readFields? (fuel + 1) (quoted name ++ ':' :: t) = some ([(some name, value)], rest) := by
  obtain ⟨u, htext, hread⟩ := readString?_quoted name (':' :: t)
  rw [htext, readFields?, skipBlanks_cons rfl]
  simp [hread, skipBlanks_cons (c := ':') rfl, hvalue, skipBlanks_cons (c := '\x7d') rfl]

theorem readFields?_more (name : Text) {t more rest : Text} {value : Json}
    {fields : List (Option Text × Json)} (hvalue : read? fuel t = some (value, ',' :: more))
    (hfields : readFields? fuel more = some (fields, rest)) :
    readFields? (fuel + 1) (quoted name ++ ':' :: t) =
      some ((some name, value) :: fields, rest) := by
  obtain ⟨u, htext, hread⟩ := readString?_quoted name (':' :: t)
  rw [htext, readFields?, skipBlanks_cons rfl]
  simp [hread, skipBlanks_cons (c := ':') rfl, hvalue, skipBlanks_cons (c := ',') rfl, hfields]

/-! ## Values, items and fields -/

mutual

/-- A plain value is read from its text, in front of any text that ends a number. -/
theorem read?_render : ∀ {j : Json}, j.Plain → ∀ {fuel : Nat}, (render j).length < fuel →
    ∀ {rest : Text}, EndsNumber rest → read? fuel (render j ++ rest) = some (j, rest)
  | _, _, 0, hfuel, _, _ => absurd hfuel (Nat.not_lt_zero _)
  | .null, _, _ + 1, _, _, _ => by
    simp [render, read?, skipBlanks_cons (c := 'n') rfl]
  | .bool false, _, _ + 1, _, _, _ => by
    simp [render, read?, skipBlanks_cons (c := 'f') rfl]
  | .bool true, _, _ + 1, _, _, _ => by
    simp [render, read?, skipBlanks_cons (c := 't') rfl]
  | .natural n, _, fuel + 1, _, rest, hrest => by
    obtain ⟨c, digits, hcons, hc⟩ := exists_cons_ofNat n
    have hread := readNumber?_ofNat n hrest
    rw [hcons] at hread
    rw [render, hcons, List.cons_append, read?_digit fuel hc]
    exact hread
  | .number _, hj, _ + 1, _, _, _ => hj.elim
  | .string (some t), _, fuel + 1, _, rest, _ => read?_quoted fuel t rest
  | .array [], _, fuel + 1, _, rest, _ => read?_array_nil fuel rest
  | .array (item :: items), hitems, fuel + 1, hfuel, rest, _ => by
    -- the fuel bounds the length of what is to be read, and the brackets are gone here
    have hlength : (commaSeparated (renderItems (item :: items))).length + 1 < fuel := by
      simp only [render, List.length_append, List.length_singleton] at hfuel
      omega
    have hread := readItems?_renderItems (List.cons_ne_nil item items) hitems hlength rest
    have hbegins := (begins_renderItems hitems.1 items).append (']' :: rest)
    have htext : render (.array (item :: items)) ++ rest =
        '[' :: (commaSeparated (renderItems (item :: items)) ++ ']' :: rest) := by
      simp [render]
    rw [htext, read?_array fuel hbegins, hread]
    rfl
  | .object [], _, fuel + 1, _, rest, _ => read?_object_nil fuel rest
  | .object (field :: fields), hfields, fuel + 1, hfuel, rest, _ => by
    have hlength : (commaSeparated (renderFields (field :: fields))).length + 1 < fuel := by
      simp only [render, List.length_append, List.length_singleton] at hfuel
      omega
    have hread := readFields?_renderFields (List.cons_ne_nil field fields) hfields hlength rest
    have hbegins := (begins_renderFields field fields).append ('\x7d' :: rest)
    have htext : render (.object (field :: fields)) ++ rest =
        '\x7b' :: (commaSeparated (renderFields (field :: fields)) ++ '\x7d' :: rest) := by
      simp [render]
    rw [htext, read?_object fuel hbegins, hread]
    rfl

/-- Plain items are read up to the bracket that closes the array. -/
theorem readItems?_renderItems : ∀ {items : List Json}, items ≠ [] → PlainItems items →
    ∀ {fuel : Nat}, (commaSeparated (renderItems items)).length + 1 < fuel → ∀ rest : Text,
      readItems? fuel (commaSeparated (renderItems items) ++ ']' :: rest) = some (items, rest)
  | [], hne, _, _, _, _ => absurd rfl hne
  | _, _, _, 0, hfuel, _ => absurd hfuel (Nat.not_lt_zero _)
  | [item], _, ⟨hitem, _⟩, fuel + 1, hfuel, rest => by
    simp only [renderItems, commaSeparated_singleton] at hfuel ⊢
    have hlength : (render item).length < fuel := by omega
    exact readItems?_last (read?_render hitem hlength (endsNumber_cons (by simp) rest))
  | item :: next :: items, _, ⟨hitem, hitems⟩, fuel + 1, hfuel, rest => by
    have htext : commaSeparated (renderItems (item :: next :: items)) =
        render item ++ ',' :: commaSeparated (renderItems (next :: items)) := by
      simp [renderItems]
    rw [htext, List.length_append, List.length_cons] at hfuel
    have hlength : (render item).length < fuel := by omega
    have hlengths : (commaSeparated (renderItems (next :: items))).length + 1 < fuel := by omega
    have hmore := readItems?_renderItems (List.cons_ne_nil next items) hitems hlengths rest
    rw [htext, List.append_assoc]
    exact readItems?_more (read?_render hitem hlength (endsNumber_cons (by simp) _)) hmore

/-- Plain fields are read up to the brace that closes the object. -/
theorem readFields?_renderFields : ∀ {fields : List (Option Text × Json)}, fields ≠ [] →
    PlainFields fields → ∀ {fuel : Nat},
    (commaSeparated (renderFields fields)).length + 1 < fuel → ∀ rest : Text,
      readFields? fuel (commaSeparated (renderFields fields) ++ '\x7d' :: rest) =
        some (fields, rest)
  | [], hne, _, _, _, _ => absurd rfl hne
  | _, _, _, 0, hfuel, _ => absurd hfuel (Nat.not_lt_zero _)
  | [(some name, value)], _, ⟨_, hvalue, _⟩, fuel + 1, hfuel, rest => by
    have htext : commaSeparated (renderFields [(some name, value)]) =
        quoted name ++ ':' :: render value := by
      simp [renderFields]
    rw [htext, List.length_append, List.length_cons] at hfuel
    have hlength : (render value).length < fuel := by omega
    rw [htext, List.append_assoc]
    exact readFields?_last name (read?_render hvalue hlength (endsNumber_cons (by simp) rest))
  | (some name, value) :: next :: fields, _, ⟨_, hvalue, hfields⟩, fuel + 1, hfuel, rest => by
    have htext : commaSeparated (renderFields ((some name, value) :: next :: fields)) =
        quoted name ++ ':' ::
          (render value ++ ',' :: commaSeparated (renderFields (next :: fields))) := by
      simp [renderFields]
    simp only [htext, List.length_append, List.length_cons] at hfuel
    have hlength : (render value).length < fuel := by omega
    have hlengths : (commaSeparated (renderFields (next :: fields))).length + 1 < fuel := by omega
    have hmore := readFields?_renderFields (List.cons_ne_nil next fields) hfields hlengths rest
    rw [htext, List.append_assoc, List.cons_append, List.append_assoc]
    exact readFields?_more name (read?_render hvalue hlength (endsNumber_cons (by simp) _)) hmore

end

/-- A plain value is the document that its text is. -/
theorem ofDocument?_render {j : Json} (hj : j.Plain) : ofDocument? (render j) = some j := by
  have hlength : (render j).length < 2 * (render j).length + 2 := by omega
  have hread := read?_render hj hlength endsNumber_nil
  rw [List.append_nil] at hread
  simp [ofDocument?, hread, skipBlanks]

/-! ## Control characters -/

theorem controlFree_commaSeparated {parts : List Text} (h : ∀ part ∈ parts, ControlFree part) :
    ControlFree (commaSeparated parts) := by
  intro c hc
  rcases mem_intercalate hc with hcomma | ⟨part, hpart, hc⟩
  · rw [List.mem_singleton.1 hcomma]
    decide
  · exact h part hpart c hc

mutual

/-- The text of a plain value holds no control character. -/
theorem controlFree_render : ∀ {j : Json}, j.Plain → ControlFree (render j)
  | .null, _ => by decide
  | .bool false, _ => by decide
  | .bool true, _ => by decide
  | .natural n, _ => controlFree_ofNat n
  | .number _, hj => hj.elim
  | .string t?, _ => controlFree_quoted (t?.getD [])
  | .array items, hitems => by
    have hinner := controlFree_commaSeparated (controlFree_renderItems hitems)
    simpa [render] using hinner
  | .object fields, hfields => by
    have hinner := controlFree_commaSeparated (controlFree_renderFields hfields)
    simpa [render] using hinner

theorem controlFree_renderItems : ∀ {items : List Json}, PlainItems items →
    ∀ part ∈ renderItems items, ControlFree part
  | [], _ => List.forall_mem_nil _
  | _ :: _, ⟨hitem, hitems⟩ =>
    List.forall_mem_cons.2 ⟨controlFree_render hitem, controlFree_renderItems hitems⟩

theorem controlFree_renderFields : ∀ {fields : List (Option Text × Json)}, PlainFields fields →
    ∀ part ∈ renderFields fields, ControlFree part
  | [], _ => List.forall_mem_nil _
  | (name, value) :: fields, ⟨_, hvalue, hfields⟩ => by
    have hfield : ControlFree (quoted (name.getD []) ++ [':'] ++ render value) := by
      simpa [controlFree_quoted] using controlFree_render hvalue
    exact List.forall_mem_cons.2 ⟨hfield, controlFree_renderFields hfields⟩

end

end Json
end ShellGuard
