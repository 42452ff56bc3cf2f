import ShellGuard.CommandLine.Grammar
import ShellGuard.Proofs.Altered
import ShellGuard.Proofs.CommandLine.JsonLines
import ShellGuard.Proofs.CommandLine.Publishing
import ShellGuard.Proofs.System.Files

/-!
# HandOver — what one command writes to a file, the next one reads

The value is written with a line feed behind it, and read without its last line break.  A carriage
return and a line feed are one line break, so a value that ends with a carriage return would be read
without it.  Quoted, neutralized and escaped values never do, and a scrubbed value does only where
an escape character protects the carriage return.

## Main statements

* `Text.dropLineEnd_append_feed`, `Text.dropLineEnd_append_return_feed` — the line break that is
  dropped.
* `Scrubber.odd_runBefore_of_run_eq` — what stands in front of a carriage return at the end.
* `Transform.getLast?_run` — the other transforms leave none there.
* `Request.read_written` — what is read of a file that a command has written.
-/

namespace ShellGuard

/-! ## Line breaks -/

/-- The line feed that was written behind a text is dropped, and nothing else. -/
theorem Text.dropLineEnd_append_feed {t : Text} (h : t.getLast? ≠ some '\r') :
    Text.dropLineEnd (t ++ ['\n']) = t := by
  rw [← List.head?_reverse] at h
  unfold dropLineEnd
  rw [List.reverse_append, List.reverse_singleton, List.singleton_append]
  split
  · -- a carriage return in front of the line feed would be the last character of the text
    next rest heq =>
    rw [(List.cons.inj heq).2] at h
    exact absurd rfl h
  · next rest heq => rw [← (List.cons.inj heq).2, List.reverse_reverse]
  · next hfeed => exact absurd rfl (hfeed _)

/-- With a carriage return at its end, a text loses that one, too. -/
theorem Text.dropLineEnd_append_return_feed (t : Text) :
    Text.dropLineEnd (t ++ ['\r'] ++ ['\n']) = t := by
  simp [dropLineEnd]

/-! ## What transforms leave at the end -/

/-- A carriage return at the end of scrubbed arguments is escaped. -/
theorem Scrubber.odd_runBefore_of_run_eq (s : Scrubber) (hpattern : s.pattern? = none)
    {arguments shown : Text} (h : (s.run arguments).text = shown ++ ['\r']) :
    Odd (EscapeConvention.runBefore s.convention.char shown) := by
  have hsettled := s.settled_run hpattern arguments
  rw [h] at hsettled
  have hlast : (shown ++ ['\r'])[shown.length]? = some '\r' := by simp
  have hescaped := hsettled.escaped_or_covered
    (Marker.not_mem_of_fault?_eq_none s.marker_safe s.convention)
    (fun c hc hsign => Marker.isAllowed_of_fault?_eq_none s.marker_safe hc hsign) hlast (by decide)
  rw [List.take_left, EscapeConvention.escapesNext_iff_odd_runBefore] at hescaped
  -- a character that is neither allowed nor escaped could only be a marker's number sign
  exact hescaped.resolve_right fun hsign => absurd hsign.1 (by decide)

namespace Transform

theorem kind_of_build {kind : TransformKind} {policy : Policy} {transform : Transform}
    (h : build kind policy = .ok transform) : transform.kind = kind := by
  unfold build at h
  split at h
  · split at h
    · cases h
      rfl
    · cases h
  · cases h
    rfl
  · cases h
    rfl
  · cases h
    rfl

theorem getLast?_ne_of_not_mem {t : Text} (h : '\r' ∉ t) : t.getLast? ≠ some '\r' :=
  fun hlast => h (List.mem_of_getLast? hlast)

/-- Only scrubbing leaves a carriage return at the end. -/
theorem getLast?_run {transform : Transform} (h : transform.kind ≠ .sanitize) (value : Text) :
    (transform.run value).text.getLast? ≠ some '\r' := by
  cases transform with
  | scrub s => exact absurd rfl h
  | quote =>
    have hquoted : (run quote value).text = '\'' :: Edit.target (Quoting.edits value) ++ ['\''] :=
      rfl
    rw [hquoted, List.getLast?_concat]
    decide
  | neutralize =>
    exact getLast?_ne_of_not_mem
      (Edit.not_mem_target_of_unbroken (Neutralizing.unbroken_edits value)).1
  | escape =>
    exact getLast?_ne_of_not_mem
      (Edit.not_mem_target_of_unbroken (Escaping.unbroken_edits value)).1

end Transform

/-! ## Writing and reading -/

namespace IoOptions

variable {io : IoOptions} {w : World} {path : Path} {t : Text}

/-- Of a file that is given for the value all but the last line break is read. -/
theorem read_of_holds (hvalue : io.value? = none) (hinput : io.inputFile? = some path)
    (h : w.Holds path t) : (io.read w).result = .ok t.dropLineEnd := by
  unfold read
  rw [hvalue, hinput]
  simp only [World.read_of_holds h]
  rfl

end IoOptions

namespace Request

variable {r : Request} {w : World} {policy : Policy} {value : Text} {transform : Transform}
  {path : Path}

/-- Unless there is an audit, the file holds what the transform makes of the value. -/
theorem exists_prepared_of_files (hjson : r.io.json = false)
    (hfile : r.io.outputFile? = some path)
    (henforce : ∀ policy, (r.policy w).result = .ok policy →
      ∀ options, r.command = .sanitize options → policy.reporting.enforcement = .enforce)
    (hrun : (r.run w).result = .ok ()) :
    ∃ policy value transform, r.Prepared w policy value transform ∧
      (r.run w).trace.files = [(path, (transform.run value).text ++ ['\n'])] := by
  obtain ⟨policy, value, transform, shown, hprepared, hshown, hwritten⟩ :=
    exists_prepared_of_run_eq_ok hrun
  refine ⟨policy, value, transform, hprepared, ?_⟩
  obtain ⟨rfl, -⟩ := published_of_output hprepared hshown
  rw [shown_of_enforce (henforce policy hprepared.resolved)] at hwritten
  have hrender : r.io.render (transform.run value).text (transform.run value).record? =
      (transform.run value).text := by
    simp [IoOptions.render, hjson]
  -- what is published goes to the standard output, and touches no file
  have hfiles := congrArg Prod.snd hwritten
  rw [hrender, IoOptions.delivered, hfile] at hfiles
  exact hfiles

theorem exists_sanitize_of_kind (h : r.command.kind = .sanitize) :
    ∃ options, r.command = .sanitize options := by
  cases hcommand : r.command with
  | sanitize options => exact ⟨options, rfl⟩
  | quote | neutralize | escape =>
    rw [hcommand] at h
    cases h

/-- A carriage return at the end of what a command writes was left there by scrubbing. -/
theorem Prepared.odd_runBefore_of_return (h : r.Prepared w policy value transform)
    (hpattern : ∀ options, r.command = .sanitize options → policy.pattern? = none) {shown : Text}
    (hshown : (transform.run value).text = shown ++ ['\r']) :
    r.command.kind = .sanitize ∧
      Odd (EscapeConvention.runBefore policy.convention.char shown) := by
  -- every other transform would have left another last character, or none
  have hkind : transform.kind = .sanitize := by
    by_contra hother
    have hlast := Transform.getLast?_run hother value
    rw [hshown, List.getLast?_concat] at hlast
    exact hlast rfl
  rw [Transform.kind_of_build h.built] at hkind
  obtain ⟨options, hcommand⟩ := exists_sanitize_of_kind hkind
  obtain ⟨s, hs, rfl⟩ := (build_eq_ok_iff hcommand).1 h.built
  have hnone : policy.settings.pattern? = none := hpattern options hcommand
  obtain ⟨hconvention, -, hprogram⟩ := Scrubber.eq_of_ofSettings hnone hs
  have hodd := s.odd_runBefore_of_run_eq hprogram hshown
  rw [hconvention] at hodd
  exact ⟨hkind, hodd⟩

/--
A command writes its value to a file, not as JSON, and scrubs, if it does, by the default rule and
without an audit.  Reading the file gives the value again, with one exception: a carriage return at
its end, which only scrubbing leaves there, and only behind an odd run of escape characters, is
dropped together with the line feed of the file.
-/
theorem read_written {w' : World} {io : IoOptions} (hjson : r.io.json = false)
    (hfile : r.io.outputFile? = some path)
    (hpolicy : ∀ policy, (r.policy w).result = .ok policy →
      ∀ options, r.command = .sanitize options →
        policy.pattern? = none ∧ policy.reporting.enforcement = .enforce)
    (hrun : (r.run w).result = .ok ())
    (hheld : ∀ file ∈ (r.run w).trace.files, w'.Holds file.1 file.2)
    (hvalue : io.value? = none) (hinput : io.inputFile? = some path) :
    ∃ policy value transform, r.Prepared w policy value transform ∧
      (r.run w).trace.files = [(path, (transform.run value).text ++ ['\n'])] ∧
      ((transform.run value).text.getLast? ≠ some '\r' →
        (io.read w').result = .ok (transform.run value).text) ∧
      ∀ shown, (transform.run value).text = shown ++ ['\r'] →
        r.command.kind = .sanitize ∧
          Odd (EscapeConvention.runBefore policy.convention.char shown) ∧
          (io.read w').result = .ok shown := by
  obtain ⟨policy, value, transform, hprepared, hfiles⟩ := exists_prepared_of_files hjson hfile
    (fun policy hresolved options hcommand => (hpolicy policy hresolved options hcommand).2) hrun
  have hholds : w'.Holds path ((transform.run value).text ++ ['\n']) :=
    hheld (path, (transform.run value).text ++ ['\n']) (by simp [hfiles])
  have hread := IoOptions.read_of_holds hvalue hinput hholds
  refine ⟨policy, value, transform, hprepared, hfiles, fun hlast => ?_, fun shown hshown => ?_⟩
  · rw [hread, Text.dropLineEnd_append_feed hlast]
  · obtain ⟨hkind, hodd⟩ := hprepared.odd_runBefore_of_return
      (fun options hcommand => (hpolicy policy hprepared.resolved options hcommand).1) hshown
    refine ⟨hkind, hodd, ?_⟩
    rw [hread, hshown, Text.dropLineEnd_append_return_feed]

def worldOf (tree : FileTree) : World :=
  { Jsonable.noWorld with entry := tree.entry [] }

/-- The world in which a text was written to a file that was not there before. -/
def worldAfter (t : Text) : World :=
  worldOf (FileTree.write {} [] ['v'] t)

def scrubToFile (value : Text) : Request :=
  ⟨false, false, .sanitize {}, { value? := some value, outputFile? := some ['v'] }⟩

def fromFile : IoOptions :=
  { inputFile? := some ['v'] }

theorem holds_worldAfter (t : Text) : (worldAfter t).Holds ['v'] t := by
  have hvacant : FileTree.find {} [] ['v'] = .ok (.vacant [['v']]) := by decide +kernel
  have hwritable : FileTree.writable {} [] ['v'] = .ok () := by decide +kernel
  refine FileTree.holds_of_write hwritable (fun place hvoid => ?_) rfl
  rw [hvacant] at hvoid
  cases hvoid

/-- An escaped line feed at the end is kept, and so is the value. -/
theorem read_written_escaped_feed :
    (scrubToFile ['\x60', '\n']).io.json = false ∧
      ((scrubToFile ['\x60', '\n']).run (worldOf {})).result = .ok () ∧
      ((scrubToFile ['\x60', '\n']).run (worldOf {})).trace.files =
        [(['v'], ['\x60', '\n'] ++ ['\n'])] ∧
      (fromFile.read (worldAfter (['\x60', '\n'] ++ ['\n']))).result = .ok ['\x60', '\n'] := by
  have hrun : ((scrubToFile ['\x60', '\n']).run (worldOf {})).result = .ok () := by
    decide +kernel
  have hwritten : ((scrubToFile ['\x60', '\n']).run (worldOf {})).trace.files =
      [(['v'], ['\x60', '\n'] ++ ['\n'])] := by
    decide +kernel
  obtain ⟨standard, hstandard, hrule⟩ :
      ∃ standard, ((scrubToFile ['\x60', '\n']).policy (worldOf {})).result = .ok standard ∧
        standard.pattern? = none ∧ standard.reporting.enforcement = .enforce :=
    ⟨_, rfl, rfl, rfl⟩
  have hheld : ∀ file ∈ ((scrubToFile ['\x60', '\n']).run (worldOf {})).trace.files,
      (worldAfter (['\x60', '\n'] ++ ['\n'])).Holds file.1 file.2 := by
    rw [hwritten]
    exact List.forall_mem_singleton.2 (holds_worldAfter _)
  have hpolicy : ∀ policy,
      ((scrubToFile ['\x60', '\n']).policy (worldOf {})).result = .ok policy →
        ∀ options, (scrubToFile ['\x60', '\n']).command = .sanitize options →
          policy.pattern? = none ∧ policy.reporting.enforcement = .enforce := by
    intro policy hresolved _ _
    rw [hstandard] at hresolved
    cases hresolved
    exact hrule
  obtain ⟨policy, value, transform, -, hfiles, hread, -⟩ :=
    read_written rfl rfl hpolicy hrun hheld (show fromFile.value? = none from rfl) rfl
  have hfile := List.cons.inj (hwritten.symm.trans hfiles)
  have htext := List.append_cancel_right (Prod.mk.inj hfile.1).2
  rw [← htext] at hread
  exact ⟨rfl, hrun, hwritten, hread (by decide)⟩

/-- A carriage return at the end is dropped with the line feed that is written behind it. -/
theorem read_written_escaped_return :
    ofWords (fun _ => none) ["sanitize", "--output", "v", "--", "\x60\r"] =
        .ok (scrubToFile ['\x60', '\r']) ∧
      (∃ policy, ((scrubToFile ['\x60', '\r']).policy (worldOf {})).result = .ok policy ∧
        policy.pattern? = none ∧ policy.reporting.enforcement = .enforce) ∧
      ((scrubToFile ['\x60', '\r']).run (worldOf {})).result = .ok () ∧
      ((scrubToFile ['\x60', '\r']).run (worldOf {})).trace.files =
        [(['v'], ['\x60', '\r'] ++ ['\n'])] ∧
      (fromFile.read (worldAfter (['\x60', '\r'] ++ ['\n']))).result = .ok ['\x60'] ∧
      (fromFile.read (worldAfter (['\x60', '\r'] ++ ['\n']))).result ≠ .ok ['\x60', '\r'] :=
  ⟨by decide +kernel, ⟨_, rfl, rfl, rfl⟩, by decide +kernel⟩

end Request

end ShellGuard
