import ShellGuard.Edit
import ShellGuard.Logging
import ShellGuard.Scrubbing.Convention
import ShellGuard.Scrubbing.PatternRule

/-!
# Scrubbing — arguments without unsupported symbols

Arguments are cut at the pairs of their escape convention, every segment is scrubbed by itself, and
the segments are joined again.  By default a character stays if it is allowed, or if a single escape
character stands before it in its segment; a custom pattern replaces its matches instead.

## Main definitions

* `ScrubSettings`, `Scrubber` — settings as configured, and a scrubber whose settings were accepted.
* `Scrubber.edits` — what becomes of each stretch of the arguments; `source_edits` says that nothing
  is lost.
* `Scrubber.run` — the scrubbed arguments.
-/

namespace ShellGuard

structure ScrubSettings where
  convention : EscapeConvention := .backtick
  marker : Text := Marker.default
  pattern? : Option PatternRule := none
  deriving DecidableEq, Repr

/-- A scrubber: settings that were accepted, with the program of the pattern. -/
structure Scrubber where
  convention : EscapeConvention
  marker : Text
  pattern? : Option Regex.Program
  marker_safe : Marker.fault? marker = none

namespace Scrubber

/-- The scrubber of settings, if the marker is safe and the pattern may be used. -/
def ofSettings (settings : ScrubSettings) : Except ConfigError Scrubber :=
  match h : Marker.fault? settings.marker with
  | some fault => .error (.unsafeMarker settings.marker fault)
  | none =>
    match settings.pattern? with
    | none => .ok ⟨settings.convention, settings.marker, none, h⟩
    | some rule =>
      match rule.compile with
      | .error e => .error e
      | .ok program => .ok ⟨settings.convention, settings.marker, some program, h⟩

/-! ## The default rule -/

def keeps (e : Char) (before : Option Char) (c : Char) : Bool :=
  Shell.isAllowed c || before = some e

def charEdit (e : Char) (marker : Text) (before : Option Char) (c : Char) : Edit :=
  if keeps e before c then .keepChar c else .replace [c] marker

/--
What becomes of a segment under the default rule: a marker in it stays as a whole, and so does what
`keeps` says; any other character gives way to the marker.
-/
def allowEdits (e : Char) (marker : Text) : (before : Option Char) → Text → List Edit
  | _, [] => []
  | before, c :: t =>
    match h : if marker = [] then none else Text.dropLead? marker (c :: t) with
    | some rest =>
      have : rest.length < t.length + 1 := by
        split at h
        · simp at h
        · next hne => exact Text.length_lt_of_dropLead? hne h
      .keep marker :: allowEdits e marker marker.getLast? rest
    | none => charEdit e marker before c :: allowEdits e marker (some c) t
  termination_by _ t => t.length

@[simp] theorem before_charEdit (e : Char) (marker : Text) (before : Option Char) (c : Char) :
    (charEdit e marker before c).before = [c] := by
  unfold charEdit
  split <;> rfl

theorem source_allowEdits (e : Char) (marker : Text) (before : Option Char) (t : Text) :
    Edit.source (allowEdits e marker before t) = t := by
  fun_induction allowEdits e marker before t with
  | case1 => rfl
  | case2 before c t rest h _ ih =>
    split at h
    · simp at h
    · simp [ih, Text.dropLead?_eq_some_iff.1 h]
  | case3 before c t h ih => simp [ih]

/-! ## The pattern rule -/

/-- What becomes of a match: it stays if it is empty, or is the marker already. -/
def matchEdit (marker found : Text) : Edit :=
  if found = [] ∨ found = marker then .keep found else .replace found marker

def findingEdits (marker : Text) (f : Regex.Findings) : List Edit :=
  (f.hits.flatMap fun hit => [.keep hit.1, matchEdit marker hit.2]) ++ [.keep f.tail]

@[simp] theorem before_matchEdit (marker found : Text) :
    (matchEdit marker found).before = found := by
  unfold matchEdit
  split <;> rfl

theorem source_findingEdits (marker : Text) (f : Regex.Findings) :
    Edit.source (findingEdits marker f) = f.text := by
  obtain ⟨hits, tail⟩ := f
  induction hits with
  | nil => simp [findingEdits, Regex.Findings.text]
  | cons hit hits ih =>
    simp only [findingEdits, Regex.Findings.text, List.flatMap_cons, Edit.source_append] at ih ⊢
    simp only [List.append_assoc, ih]
    simp

/-! ## Arguments -/

def segmentEdits (s : Scrubber) (segment : Text) : List Edit :=
  match s.pattern? with
  | some program => findingEdits s.marker (program.findAll segment)
  | none => allowEdits s.convention.char s.marker none segment

/-- What becomes of the arguments; the pairs between the segments stay. -/
def edits (s : Scrubber) (arguments : Text) : List Edit :=
  List.intercalate [.keep s.convention.pair]
    ((s.convention.segments arguments).map s.segmentEdits)

theorem source_segmentEdits (s : Scrubber) (segment : Text) :
    Edit.source (s.segmentEdits segment) = segment := by
  unfold segmentEdits
  split
  · rw [source_findingEdits, Regex.Program.text_findAll]
  · exact source_allowEdits _ _ _ _

/-- Nothing of the arguments is lost: what is edited is all of them. -/
theorem source_edits (s : Scrubber) (arguments : Text) :
    Edit.source (s.edits arguments) = arguments := by
  have h : Edit.source ∘ s.segmentEdits = id := funext s.source_segmentEdits
  rw [edits, Edit.source_intercalate, List.map_map, h, List.map_id,
    EscapeConvention.joinWith_segments]

def run (s : Scrubber) (arguments : Text) : Outcome :=
  .ofEdits (s.edits arguments)

def segmentCount (s : Scrubber) (arguments : Text) : Nat :=
  (s.convention.segments arguments).length

/-- What the log says about scrubbed arguments: how much was replaced, if anything was. -/
def notes (s : Scrubber) (arguments : Text) (outcome : Outcome) : List LogRecord :=
  match outcome.record? with
  | none => []
  | some record =>
    [.debug (.concat
      ["Sanitizer replaced ", .ofNat record.total, " symbol(s) (", .ofNat record.distinct,
        " distinct) across ", .ofNat (s.segmentCount arguments), " segment(s)."])]

end Scrubber

end ShellGuard
