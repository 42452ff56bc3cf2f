import ShellGuard.Run

/-!
# Runs — what is left of steps that follow each other

A run of several steps that comes to its end is the trace of the first step with that of the others
behind it.  Most steps only log, ask or tell; they are silent, and what a command writes is what the
few others write.

## Main definitions

* `Trace.written` — what was written to the standard output, and to files.
* `Run.Silent` — a run that writes neither to the standard output nor to a file.
* `Run.Alike` — two runs that end in the same way and write the same.

## Main statements

* `bind_eq_ok_iff`, `bind_eq_error_iff` — when two results in a row are one, and when they fail.
* `Run.bind_eq_ok`, `Run.bind_eq_error` — when two steps come to their end, and when they fail.
* `Run.bind_of_ok`, `Run.bind_of_error` — what two steps leave.
* `Run.Silent.bind`, `Run.Alike.bind` — silent steps make a silent run, and steps that are alike
  make runs that are.
* `Run.Silent.written_bind` — behind a silent step only the others have written anything.
-/

namespace ShellGuard

/-! ## Results -/

section Results

variable {ε ε' α β : Type} {x : Except ε α}

theorem bind_eq_ok_iff {f : α → Except ε β} {b : β} :
    x >>= f = .ok b ↔ ∃ a, x = .ok a ∧ f a = .ok b := by
  cases x with
  | error e => simp [bind, Except.bind]
  | ok a => simp [bind, Except.bind]

theorem bind_eq_error_iff {f : α → Except ε β} {e : ε} :
    x >>= f = .error e ↔ x = .error e ∨ ∃ a, x = .ok a ∧ f a = .error e := by
  cases x with
  | error e => simp [bind, Except.bind]
  | ok a => simp [bind, Except.bind]

theorem mapError_eq_ok_iff {f : ε → ε'} {a : α} : x.mapError f = .ok a ↔ x = .ok a := by
  cases x with
  | error e => exact ⟨nofun, nofun⟩
  | ok b =>
    constructor
    · rintro ⟨⟩
      rfl
    · rintro ⟨⟩
      rfl

theorem mapError_eq_error_iff {f : ε → ε'} {e : ε'} :
    x.mapError f = .error e ↔ ∃ cause, x = .error cause ∧ f cause = e := by
  cases x with
  | error cause =>
    constructor
    · rintro ⟨⟩
      exact ⟨cause, rfl, rfl⟩
    · rintro ⟨_, ⟨⟩, rfl⟩
      rfl
  | ok a =>
    constructor
    · rintro ⟨⟩
    · rintro ⟨_, ⟨⟩, -⟩

/-- A result that is a value can be compared with it, whatever errors there are. -/
theorem toOption_eq_some_iff {a : α} : x.toOption = some a ↔ x = .ok a := by
  cases x <;> simp [Except.toOption]

end Results

/-! ## Traces -/

namespace Trace

variable (a b : Trace)

@[simp] theorem logs_append : (a ++ b).logs = a.logs ++ b.logs := rfl

@[simp] theorem output_append : (a ++ b).output = a.output ++ b.output := rfl

@[simp] theorem messages_append : (a ++ b).messages = a.messages ++ b.messages := rfl

@[simp] theorem files_append : (a ++ b).files = a.files ++ b.files := rfl

/-- What was written to the standard output, and to files. -/
def written (t : Trace) : Text × List (Path × Text) :=
  (t.output, t.files)

theorem written_append {a : Trace} (h : a.files = []) (b : Trace) :
    (a ++ b).written = b.written.map (a.output ++ ·) id := by
  simp [written, h]

end Trace

namespace Run

variable {α β : Type} {r : Run α} {f : α → Run β}

/-! ## Steps -/

theorem bind_of_ok {a : α} (h : r.result = .ok a) :
    r >>= f = ⟨(f a).result, r.trace ++ (f a).trace⟩ := by
  change r.bind f = _
  rw [bind, h]

theorem bind_of_error {failure : Failure} (h : r.result = .error failure) :
    r >>= f = ⟨.error failure, r.trace⟩ := by
  change r.bind f = _
  rw [bind, h]

/-- Two steps come to their end if both do. -/
theorem bind_eq_ok {b : β} :
    (r >>= f).result = .ok b ↔ ∃ a, r.result = .ok a ∧ (f a).result = .ok b := by
  cases h : r.result with
  | error failure => simp [bind_of_error h]
  | ok a => simp [bind_of_ok h]

/-- Two steps fail if the first one does, or if it does not and the other one fails. -/
theorem bind_eq_error {failure : Failure} :
    (r >>= f).result = .error failure ↔
      r.result = .error failure ∨ ∃ a, r.result = .ok a ∧ (f a).result = .error failure := by
  cases h : r.result with
  | error failure => simp [bind_of_error h]
  | ok a => simp [bind_of_ok h]

@[simp] theorem result_ofExcept (result : Except Failure α) : (ofExcept result).result = result :=
  rfl

/-! ## Silence -/

/-- Does the run write neither to the standard output nor to a file? -/
structure Silent (r : Run α) : Prop where
  output : r.trace.output = []
  files : r.trace.files = []

theorem silent_pure (a : α) : Silent (Pure.pure a : Run α) := ⟨rfl, rfl⟩

theorem silent_ofExcept (result : Except Failure α) : Silent (ofExcept result) := ⟨rfl, rfl⟩

theorem silent_log (records : List LogRecord) : Silent (log records) := ⟨rfl, rfl⟩

theorem silent_tell (device : Device) (text : Text) : Silent (tell device text) := ⟨rfl, rfl⟩

theorem Silent.regardless {r : Run Unit} (h : Silent r) : Silent r.regardless := ⟨h.output, h.files⟩

theorem silent_iff_written : Silent r ↔ r.trace.written = ([], []) := by
  constructor
  · intro h
    rw [Trace.written, h.output, h.files]
  · intro h
    obtain ⟨houtput, hfiles⟩ := Prod.mk.inj h
    exact ⟨houtput, hfiles⟩

theorem Silent.within (h : Silent r) (step : Text) : Silent (r.within step) := ⟨h.output, h.files⟩

/-- Where a silent step fails, nothing is written at all. -/
theorem Silent.bind_failed (h : Silent r) {failure : Failure} (hr : r.result = .error failure) :
    Silent (r >>= f) := by
  rw [bind_of_error hr]
  exact ⟨h.output, h.files⟩

theorem Silent.bind (h : Silent r) (hf : ∀ a, Silent (f a)) : Silent (r >>= f) := by
  cases hr : r.result with
  | error failure => exact h.bind_failed hr
  | ok a =>
    rw [bind_of_ok hr]
    exact ⟨by simp [h.output, (hf a).output], by simp [h.files, (hf a).files]⟩

theorem Silent.written_bind (h : Silent r) {a : α} (hr : r.result = .ok a) :
    (r >>= f).trace.written = (f a).trace.written := by
  rw [bind_of_ok hr]
  simp [Trace.written, h.output, h.files]

/-- Silent steps behind a step write nothing more, whether or not it fails. -/
theorem written_bind_of_silent (hf : ∀ a, Silent (f a)) :
    (r >>= f).trace.written = r.trace.written := by
  cases hr : r.result with
  | error failure => rw [bind_of_error hr]
  | ok a =>
    rw [bind_of_ok hr]
    simp [Trace.written, (hf a).output, (hf a).files]

/-! ## Two runs -/

/-- Do two runs end in the same way and write the same, whatever they log and tell? -/
structure Alike (r r' : Run α) : Prop where
  result : r.result = r'.result
  written : r.trace.written = r'.trace.written

theorem Alike.refl (r : Run α) : Alike r r := ⟨rfl, rfl⟩

theorem Alike.trans {r r' r'' : Run α} (h : Alike r r') (h' : Alike r' r'') : Alike r r'' :=
  ⟨h.result.trans h'.result, h.written.trans h'.written⟩

theorem Silent.alike {r r' : Run α} (h : Silent r) (h' : Silent r')
    (hresult : r.result = r'.result) : Alike r r' :=
  ⟨hresult, (silent_iff_written.1 h).trans (silent_iff_written.1 h').symm⟩

/-- A silent step in front changes nothing. -/
theorem Silent.bind_alike (h : Silent r) {a : α} (hr : r.result = .ok a) :
    Alike (r >>= f) (f a) := by
  refine ⟨?_, h.written_bind hr⟩
  rw [bind_of_ok hr]

/-- A record in the log behind a run changes nothing. -/
theorem alike_bind_log (r : Run Unit) (records : List LogRecord) :
    Alike (r >>= fun _ => log records) r := by
  refine ⟨?_, written_bind_of_silent fun _ => silent_log records⟩
  cases hr : r.result with
  | error failure => rw [bind_of_error hr]
  | ok _ => rw [bind_of_ok hr]; rfl

/-- Behind steps that are alike, what is written is the same if the others write the same. -/
theorem Alike.written_bind {r r' : Run α} {f g : α → Run β} (h : Alike r r')
    (hfg : ∀ a, r.result = .ok a → (f a).trace.written = (g a).trace.written) :
    (r >>= f).trace.written = (r' >>= g).trace.written := by
  have hresult := h.result
  cases hr : r.result with
  | error failure =>
    rw [bind_of_error hr, bind_of_error (hresult.symm.trans hr)]
    exact h.written
  | ok a =>
    obtain ⟨houtput, hfiles⟩ := Prod.mk.inj h.written
    obtain ⟨houtput', hfiles'⟩ := Prod.mk.inj (hfg a hr)
    rw [bind_of_ok hr, bind_of_ok (hresult.symm.trans hr)]
    simp [Trace.written, houtput, hfiles, houtput', hfiles']

theorem Alike.bind {r r' : Run α} {f g : α → Run β} (h : Alike r r')
    (hfg : ∀ a, r.result = .ok a → Alike (f a) (g a)) : Alike (r >>= f) (r' >>= g) := by
  refine ⟨?_, h.written_bind fun a ha => (hfg a ha).written⟩
  cases hr : r.result with
  | error failure => rw [bind_of_error hr, bind_of_error (h.result.symm.trans hr)]
  | ok a =>
    rw [bind_of_ok hr, bind_of_ok (h.result.symm.trans hr)]
    exact (hfg a hr).result

end Run

end ShellGuard
