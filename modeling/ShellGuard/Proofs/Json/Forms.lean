import ShellGuard.Json.Codec
import ShellGuard.Proofs.Counting
import ShellGuard.Proofs.Json.Documents
import Mathlib.Data.List.Nodup
import Mathlib.Data.Option.Basic

/-!
# Forms — every value is read back from its JSON text

A structure is written with each of its fields once, so the reader finds every field, and no default
takes effect.  Names are read by comparing them with the name of each case.  The counts of a record
are written in increasing order, and every entry that is read goes behind those before it.  A count
fits where it is below 2⁶⁴; all other values are read back without condition.

## Main definitions

* `Record.Fits`, `Outcome.Fits` — the counts are those that can be read.
* `Jsonable.ReadsBack` — a value is read back from its text, and the text holds no control
  character.

## Main statements

* `Json.fields?_object` — the fields of a structure that was written are its values.
* `SymbolCounts.ofJson?_toJson` — counts are read back in their order.
* `Record.ofJson?_toJson`, `Outcome.ofJson?_toJson`, `Policy.ofJson?_toJson` — so are the structures
  that hold them, and those of a configuration.
* `Jsonable.readsBack` — what is read back from its form is read back from its text.
-/

namespace ShellGuard

/-! ## Structures -/

namespace Json

theorem lookup_field_cons (name other : Text) (value : Json) (fields : List (Option Text × Json)) :
    lookup name (field other value :: fields) =
      if other = name then some value else lookup name fields := by
  by_cases h : other = name <;> simp [lookup, field, h]

theorem map_fst_zipWith_field {names : List Text} {values : List Json}
    (hlength : values.length = names.length) :
    (List.zipWith field names values).map Prod.fst = names.map some := by
  induction names generalizing values with
  | nil => rfl
  | cons name names ih =>
    obtain ⟨value, values, rfl⟩ := List.exists_cons_of_length_eq_add_one hlength
    have hrest := ih (by simpa using hlength)
    rw [List.zipWith_cons_cons, List.map_cons, hrest]
    rfl

theorem map_lookup_zipWith_field {names : List Text} {values : List Json} (hnames : names.Nodup)
    (hlength : values.length = names.length) :
    names.map (fun name => lookup name (List.zipWith field names values)) = values.map some := by
  induction names generalizing values with
  | nil =>
    rw [List.length_eq_zero_iff.1 hlength]
    rfl
  | cons name names ih =>
    obtain ⟨value, values, rfl⟩ := List.exists_cons_of_length_eq_add_one hlength
    obtain ⟨hname, hrest⟩ := List.nodup_cons.1 hnames
    have hothers : names.map (fun other =>
        lookup other (field name value :: List.zipWith field names values)) =
          names.map (fun other => lookup other (List.zipWith field names values)) := by
      refine List.map_congr_left fun other hother => ?_
      -- the first field has another name than those behind it, and is passed over
      have hne : name ≠ other := by
        rintro rfl
        exact hname hother
      rw [lookup_field_cons, if_neg hne]
    rw [List.zipWith_cons_cons, List.map_cons, hothers, ih hrest (by simpa using hlength),
      lookup_field_cons, if_pos rfl, List.map_cons]

theorem distinctFields_zipWith_field {names : List Text} {values : List Json}
    (hnames : names.Nodup) (hlength : values.length = names.length) :
    distinctFields names (List.zipWith field names values) := by
  have hfirsts := map_fst_zipWith_field hlength
  have hnodup : (names.map some).Nodup := hnames.map (Option.some_injective Text)
  simp only [distinctFields, Bool.and_eq_true, List.all_eq_true, decide_eq_true_eq]
  constructor
  · intro f hf
    have hmem : f.1 ∈ names.map some := by
      rw [← hfirsts]
      exact List.mem_map_of_mem hf
    obtain ⟨name, -, hname⟩ := List.mem_map.1 hmem
    rw [← hname]
    rfl
  · intro name _
    have hcount := List.nodup_iff_count_le_one.1 hnodup (some name)
    rw [← hfirsts, List.count, List.countP_map, List.countP_eq_length_filter] at hcount
    simpa only [Function.comp_def, beq_eq_decide] using hcount

/-- The fields of a structure that was written are its values in their order. -/
theorem fields?_object (missing : Missing) {names : List Text} (hnames : names.Nodup)
    (values : List Json) (hlength : values.length = names.length) :
    (object (List.zipWith field names values)).fields? missing names =
      some (values.map some) := by
  rw [fields?, if_pos (distinctFields_zipWith_field hnames hlength),
    map_lookup_zipWith_field hnames hlength]

@[simp] theorem plain_ofText (t : Text) : (ofText t).Plain := rfl

@[simp] theorem plain_ofText? (t? : Option Text) : (ofText? t?).Plain := by
  cases t? with
  | none => trivial
  | some t => rfl

@[simp] theorem optionalText?_ofText? (t? : Option Text) :
    (ofText? t?).optionalText? = some t? := by
  cases t? <;> rfl

theorem count?_natural {n : Nat} (h : n < countBound) : (natural n).count? = some n :=
  if_pos h

end Json

/-! ## Records and outcomes -/

namespace SymbolCounts

theorem plainFields_entries (entries : List (Text × Nat)) :
    Json.PlainFields (entries.map fun e => Json.field e.1 (.natural e.2)) := by
  induction entries with
  | nil => trivial
  | cons entry entries ih => exact ⟨rfl, trivial, ih⟩

/-- Every entry that is read goes behind those before it. -/
theorem addFields?_entries (c : SymbolCounts) {entries : List (Text × Nat)}
    (hincreasing : Increasing (c.entries ++ entries))
    (hfits : ∀ entry ∈ entries, entry.2 < Json.countBound) :
    c.addFields? (entries.map fun e => Json.field e.1 (.natural e.2)) =
      some ⟨c.entries ++ entries, hincreasing⟩ := by
  induction entries generalizing c with
  | nil => simp [addFields?]
  | cons entry entries ih =>
    obtain ⟨symbol, n⟩ := entry
    obtain ⟨hn, hrest⟩ := List.forall_mem_cons.1 hfits
    -- `c` holds the entries that were read before, and the next symbol is behind all of them
    have hbefore : ∀ e ∈ c.entries, Text.precedes e.1 symbol := fun e he =>
      (List.pairwise_append.1 hincreasing).2.2 e he (symbol, n) List.mem_cons_self
    have hset : (c.set symbol n).entries = c.entries ++ [(symbol, n)] :=
      alterEntries_of_forall_precedes _ hbefore
    have hincreasing' : Increasing ((c.set symbol n).entries ++ entries) := by
      rwa [hset, List.append_assoc, List.singleton_append]
    have hread := ih (c.set symbol n) hincreasing' hrest
    rw [List.map_cons, Json.field, addFields?, Json.count?_natural hn]
    simpa [hset] using hread

/-- Counts are read back in their order. -/
theorem ofJson?_toJson {c : SymbolCounts} (hfits : ∀ entry ∈ c.entries, entry.2 < Json.countBound) :
    ofJson? c.toJson = some c :=
  empty.addFields?_entries c.increasing hfits

end SymbolCounts

namespace Record

/-- Are all counts such as can be read? -/
structure Fits (r : Record) : Prop where
  counts : ∀ entry ∈ r.counts.entries, entry.2 < Json.countBound
  total : r.total < Json.countBound

theorem plain_toJson (r : Record) : r.toJson.Plain :=
  ⟨rfl, SymbolCounts.plainFields_entries r.counts.entries, rfl, trivial, trivial⟩

theorem ofJson?_toJson {r : Record} (hr : r.Fits) : ofJson? r.toJson = some r := by
  have hnames : (["removedSymbols", "removedSymbolsCount"] : List Text).Nodup := by decide
  have hfields : r.toJson.fields? .null ["removedSymbols", "removedSymbolsCount"] =
      some [some r.counts.toJson, some (.natural r.total)] :=
    Json.fields?_object .null hnames [r.counts.toJson, .natural r.total] rfl
  rw [ofJson?, hfields]
  simp [SymbolCounts.ofJson?_toJson hr.counts, Json.count?_natural hr.total]

/-- No count is higher than the number of symbols that were counted. -/
theorem fits_of_ofSymbols? {symbols : List Text} {r : Record} (h : ofSymbols? symbols = some r)
    (hlength : symbols.length < Json.countBound) : r.Fits := by
  have htotal : r.total < Json.countBound := by
    rwa [total_of_ofSymbols? h]
  refine ⟨fun entry hentry => ?_, htotal⟩
  have hcount := SymbolCounts.count_le_sum hentry
  rw [sum_of_ofSymbols? h] at hcount
  exact Nat.lt_of_le_of_lt hcount htotal

end Record

namespace Outcome

def Fits (o : Outcome) : Prop :=
  ∀ r ∈ o.record?, r.Fits

theorem plain_toJson (o : Outcome) : o.toJson.Plain := by
  obtain ⟨text, record?⟩ := o
  cases record? with
  | none => exact ⟨rfl, rfl, rfl, trivial, trivial⟩
  | some r => exact ⟨rfl, rfl, rfl, r.plain_toJson, trivial⟩

theorem ofJson?_toJson {o : Outcome} (ho : o.Fits) : ofJson? o.toJson = some o := by
  have hnames : (["sanitized", "telemetry"] : List Text).Nodup := by decide
  obtain ⟨text, record?⟩ := o
  cases record? with
  | none =>
    have hfields : (toJson ⟨text, none⟩).fields? .null ["sanitized", "telemetry"] =
        some [some (.ofText text), some .null] :=
      Json.fields?_object .null hnames [.ofText text, .null] rfl
    rw [ofJson?, hfields]
    rfl
  | some r =>
    have hfields : (toJson ⟨text, some r⟩).fields? .null ["sanitized", "telemetry"] =
        some [some (.ofText text), some r.toJson] :=
      Json.fields?_object .null hnames [.ofText text, r.toJson] rfl
    have hrecord : recordOfJson? r.toJson = some (some r) :=
      congrArg (Option.map some) (Record.ofJson?_toJson (ho r rfl))
    rw [ofJson?, hfields]
    simp [Json.ofText, Json.text?, Json.decodeOr, hrecord]

end Outcome

/-! ## Names -/

theorem TransformKind.ofJson?_toJson (kind : TransformKind) : ofJson? kind.toJson = some kind := by
  cases kind <;> rfl

theorem EscapeConvention.ofJson?_toJson (convention : EscapeConvention) :
    ofJson? convention.toJson = some convention := by
  cases convention <;> rfl

theorem Reach.ofJson?_toJson (reach : Reach) : ofJson? reach.toJson = some reach := by
  cases reach <;> rfl

theorem Enforcement.ofJson?_toJson (e : Enforcement) : ofJson? e.toJson = some e := by
  cases e <;> rfl

/-! ## Policies -/

namespace PatternRule

theorem plain_toJson (rule : PatternRule) : rule.toJson.Plain :=
  ⟨rfl, rfl, rfl, rfl, rfl, trivial, rfl, trivial, rfl, trivial, trivial⟩

theorem ofJson?_toJson (rule : PatternRule) : ofJson? rule.toJson = some rule := by
  have hnames : fieldNames.Nodup := by decide
  have hfields : rule.toJson.fields? .default fieldNames =
      some [some (.ofText rule.pattern), some rule.reach.toJson,
        some (.bool rule.caseInsensitive), some (.bool rule.multiLine),
        some (.bool rule.dotMatchesNewLine)] :=
    Json.fields?_object .default hnames [.ofText rule.pattern, rule.reach.toJson,
      .bool rule.caseInsensitive, .bool rule.multiLine, .bool rule.dotMatchesNewLine] rfl
  rw [ofJson?, hfields]
  simp [Json.decodeOr, Json.ofText, Json.text?, Json.flag?,
    Reach.ofJson?_toJson]

end PatternRule

namespace Reporting

theorem plain_toJson (r : Reporting) : r.toJson.Plain :=
  ⟨rfl, rfl, rfl, trivial, rfl, trivial, rfl, rfl, rfl, Json.plain_ofText? r.feature?, trivial⟩

theorem ofJson?_toJson (r : Reporting) : ofJson? r.toJson = some r := by
  have hnames : fieldNames.Nodup := by decide
  have hfields : r.toJson.fields? .default fieldNames =
      some [some r.enforcement.toJson, some (.bool r.warn), some (.bool r.collect),
        some (.ofText r.area), some (.ofText? r.feature?)] :=
    Json.fields?_object .default hnames [r.enforcement.toJson, .bool r.warn, .bool r.collect,
      .ofText r.area, .ofText? r.feature?] rfl
  rw [ofJson?, hfields]
  simp [Json.decodeOr, Json.ofText, Json.text?, Json.flag?,
    Enforcement.ofJson?_toJson]

end Reporting

namespace Policy

theorem plain_toJson (p : Policy) : p.toJson.Plain := by
  obtain ⟨convention, marker?, pattern?, reporting⟩ := p
  cases pattern? with
  | none =>
    exact ⟨rfl, rfl, rfl, Json.plain_ofText? marker?, rfl, trivial, rfl, reporting.plain_toJson,
      trivial⟩
  | some rule =>
    exact ⟨rfl, rfl, rfl, Json.plain_ofText? marker?, rfl, rule.plain_toJson, rfl,
      reporting.plain_toJson, trivial⟩

theorem ofJson?_toJson (p : Policy) : ofJson? p.toJson = some p := by
  have hnames : fieldNames.Nodup := by decide
  obtain ⟨convention, marker?, pattern?, reporting⟩ := p
  -- a missing pattern is written as null, and null is read as a missing pattern
  obtain ⟨j, hj, hpattern⟩ : ∃ j, toJson ⟨convention, marker?, pattern?, reporting⟩ =
      .object (List.zipWith Json.field fieldNames
        [convention.toJson, .ofText? marker?, j, reporting.toJson]) ∧
      patternOfJson? j = some pattern? := by
    cases pattern? with
    | none => exact ⟨.null, rfl, rfl⟩
    | some rule => exact ⟨rule.toJson, rfl, congrArg (Option.map some) rule.ofJson?_toJson⟩
  rw [ofJson?, hj, Json.fields?_object .default hnames _ rfl]
  simp [Json.decodeOr, hpattern, EscapeConvention.ofJson?_toJson, Reporting.ofJson?_toJson]

end Policy

/-! ## Through text -/

namespace Jsonable

/-- Is the value read back from its text, and does the text hold no control character? -/
structure ReadsBack {α : Type} [Jsonable α] (value : α) : Prop where
  decode : decode? (encode value) = some value
  controlFree : Json.ControlFree (encode value)

theorem readsBack {α : Type} [Jsonable α] {value : α} (hplain : (toJson value).Plain)
    (hread : ofJson? (toJson value) = some value) : ReadsBack value := by
  refine ⟨?_, Json.controlFree_render hplain⟩
  rw [decode?, encode, Json.ofDocument?_render hplain]
  exact hread

end Jsonable

end ShellGuard
