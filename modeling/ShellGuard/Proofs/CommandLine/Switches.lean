import Mathlib.Tactic.SplitIfs
import ShellGuard.CommandLine.Grammar
import ShellGuard.Proofs.Runs

/-!
# Switches — command lines that ask for the same, however much is told

Three flags only say how much is told.  Command lines that differ in nothing but these flags ask for
the same: the same command, with the same policy, value and place for the result.  The switches may
stand anywhere among the flags, also together with other letters behind one hyphen.

A level is read word by word.  What its words have said so far, apart from switches, is its task; a
word that is a switch leaves the task as it is, and what any other word makes of the task depends on
the task alone.

## Main definitions

* `Request.task` — what a request asks for, apart from what is told.
* `LevelReader.task` — what the words of a level have said, apart from switches.
* `LevelReader.Steady` — steps for which only the task counts.
* `SwitchesApart` — words that differ in nothing but switches.

## Main statements

* `LevelReader.steady_readWord` — one word, read at two places with the same task.
* `LevelReader.task_readWord_of_isSwitchWord` — a switch leaves the task as it is.
* `SwitchesApart.task_ofWords` — two command lines that are switches apart ask for the same.
-/

namespace ShellGuard

/-- Does the flag only say how much is told? -/
def Flag.isSwitch : Flag → Bool
  | quiet | debug | summary => true
  | _ => false

/-! ## Levels -/

namespace LevelReader

/-- What the words of a level have said, apart from switches. -/
structure Task where
  given : List (Flag × Text)
  value? : Option Text
  /-- A flag whose value is ahead. -/
  awaited? : Option Flag
  deriving DecidableEq, Repr

namespace Task

/-- The task with a flag; a switch does not count. -/
def add (t : Task) (flag : Flag) (value : Text) : Task :=
  if flag.isSwitch then t else { t with given := t.given ++ [(flag, value)] }

/-- The task with a flag, which waits for its value if it has one and none is attached. -/
def give (t : Task) (flag : Flag) (attached? : Option Text) : Task :=
  match attached? with
  | some value => t.add flag value
  | none => if flag.takesValue then { t with awaited? := some flag } else t.add flag []

end Task

/-- The task of a level; a value that was read behind its flag counts as given. -/
def task (r : LevelReader) : Task :=
  let base : Task := ⟨r.flags.filter fun entry => !entry.1.isSwitch, r.value?, none⟩
  match r.pending? with
  | none => base
  | some (flag, none) => { base with awaited? := some flag }
  | some (flag, some value) => base.add flag value

/-- Does what a step makes of the task depend on the task alone? -/
def Steady (step : LevelReader → Except Stop LevelReader) : Prop :=
  ∀ ⦃r r' s s' : LevelReader⦄, r.task = r'.task → step r = .ok s → step r' = .ok s' →
    s.task = s'.task

variable {r s : LevelReader} {flag : Flag} {value : Text} {l : Level}

theorem eq_of_add (h : r.add flag value = .ok s) :
    s = { r with flags := r.flags ++ [(flag, value)] } := by
  unfold add at h
  split_ifs at h
  exact (Except.ok.inj h).symm

theorem task_add (hpending : r.pending? = none) (h : r.add flag value = .ok s) :
    s.task = r.task.add flag value := by
  rw [eq_of_add h]
  cases hswitch : flag.isSwitch <;> simp [task, Task.add, hpending, hswitch]

/-- Settling leaves the task as it is. -/
theorem task_settle (h : r.settle = .ok s) : s.task = r.task ∧ s.pending? = none := by
  unfold settle at h
  cases hpending : r.pending? with
  | none =>
    rw [hpending] at h
    cases h
    exact ⟨rfl, hpending⟩
  | some pending =>
    obtain ⟨flag, value?⟩ := pending
    cases value? with
    | none =>
      rw [hpending] at h
      cases h
    | some value =>
      rw [hpending] at h
      refine ⟨?_, ?_⟩
      · have hadded := task_add rfl h
        simpa [task, hpending] using hadded
      · rw [eq_of_add h]

theorem task_give {attached? : Option Text} (h : r.give flag attached? = .ok s) :
    s.task = r.task.give flag attached? := by
  obtain ⟨settled, hsettled, h⟩ := bind_eq_ok_iff.1 h
  obtain ⟨htask, hpending⟩ := task_settle hsettled
  rw [← htask]
  cases attached? with
  | some value => exact task_add hpending h
  | none =>
    by_cases htakes : flag.takesValue
    · obtain rfl : { settled with pending? := some (flag, none) } = s := by
        simpa [htakes, Pure.pure, Except.pure] using h
      simp [Task.give, task, hpending, htakes]
    · have hadded : settled.add flag [] = .ok s := by simpa [htakes] using h
      rw [task_add hpending hadded]
      simp [Task.give, htakes]

/-! ## Words -/

theorem steady_readLong (l : Level) (t : Text) : Steady fun r => r.readLong l t := by
  intro r r' s s' htask h h'
  unfold readLong at h h'
  dsimp only at h h'
  cases hflag : l.ofLong? (t.takeWhile (· ≠ '=')) with
  | none =>
    rw [hflag] at h
    cases h
  | some flag =>
    rw [hflag] at h h'
    dsimp only at h h'
    split_ifs at h h' with hspare
    rw [task_give h, task_give h', htask]

/-- The value that is attached to a letter, without the sign that may stand between them. -/
def attachedTo? : Text → Option Text
  | [] => none
  | c :: t => some (if c = '=' then t else c :: t)

theorem readLetters_cons {c : Char} (h : l.ofShort? c = some flag) (r : LevelReader) (t : Text) :
    r.readLetters l (c :: t) =
      if flag.takesValue then r.give flag (attachedTo? t)
      else r.give flag none >>= fun r => r.readLetters l t := by
  rw [readLetters, h]
  dsimp only
  split
  · cases t with
    | nil => rfl
    | cons d t =>
      by_cases hd : d = '='
      · rw [hd]
        rfl
      · simp [attachedTo?, hd]
  · rfl

theorem steady_readLetters (l : Level) (t : Text) : Steady fun r => r.readLetters l t := by
  induction t with
  | nil =>
    intro r r' s s' htask h h'
    cases h
    cases h'
    exact htask
  | cons c t ih =>
    intro r r' s s' htask h h'
    cases hflag : l.ofShort? c with
    | none => simp [readLetters, hflag] at h
    | some flag =>
      dsimp only at h h'
      rw [readLetters_cons hflag] at h h'
      split_ifs at h h' with htakes
      · rw [task_give h, task_give h', htask]
      · obtain ⟨m, hm, h⟩ := bind_eq_ok_iff.1 h
        obtain ⟨m', hm', h'⟩ := bind_eq_ok_iff.1 h'
        have hgiven : m.task = m'.task := by rw [task_give hm, task_give hm', htask]
        exact ih hgiven h h'

theorem task_readValue {word : Text} (h : r.readValue word = .ok s) :
    s.task = { r.task with value? := some word, awaited? := none } := by
  unfold readValue at h
  split at h
  · cases h
  · obtain ⟨settled, hsettled, h⟩ := bind_eq_ok_iff.1 h
    obtain ⟨htask, hpending⟩ := task_settle hsettled
    cases h
    rw [← htask]
    simp [task, hpending]

theorem steady_readValue (word : Text) : Steady fun r => r.readValue word := by
  intro r r' s s' htask h h'
  rw [task_readValue h, task_readValue h', htask]

theorem awaited?_task_eq_some_iff :
    r.task.awaited? = some flag ↔ r.pending? = some (flag, none) := by
  unfold task
  cases hpending : r.pending? with
  | none => simp
  | some pending =>
    obtain ⟨found, value?⟩ := pending
    cases value? with
    | none => simp
    | some value => cases hswitch : found.isSwitch <;> simp [Task.add, hswitch]

/-- A flag that has waited for its value is given with it. -/
theorem task_fill {word : Text} (hpending : r.pending? = some (flag, none)) :
    ({ r with pending? := some (flag, some word) } : LevelReader).task =
      Task.add { r.task with awaited? := none } flag word := by
  simp [task, hpending]

theorem readWord_letters {c : Char} (hc : c ≠ '-') (l : Level) (r : LevelReader) (t : Text) :
    r.readWord l ('-' :: c :: t) = r.readLetters l (c :: t) := by
  simp [readWord]

/-- The value of the flag in front of it. -/
theorem readWord_awaited {word : Text} (hword : ∀ c t, word ≠ '-' :: c :: t)
    (hpending : r.pending? = some (flag, none)) :
    r.readWord l word = .ok { r with pending? := some (flag, some word) } := by
  unfold readWord
  split
  · exact absurd rfl (hword _ _)
  · exact absurd rfl (hword _ _)
  · simp [hpending]

/-- A value by itself. -/
theorem readWord_value {word : Text} (hword : ∀ c t, word ≠ '-' :: c :: t)
    (hpending : ∀ flag, r.pending? ≠ some (flag, none)) : r.readWord l word = r.readValue word := by
  unfold readWord
  split
  · exact absurd rfl (hword _ _)
  · exact absurd rfl (hword _ _)
  · split
    · next flag hawaited => exact absurd hawaited (hpending flag)
    · rfl

theorem steady_readWord (l : Level) (word : Text) : Steady fun r => r.readWord l word := by
  intro r r' s s' htask h h'
  dsimp only at h h'
  by_cases hword : ∃ c t, word = '-' :: c :: t
  · obtain ⟨c, t, rfl⟩ := hword
    by_cases hc : c = '-'
    · rw [hc] at h h'
      exact steady_readLong l t htask h h'
    · rw [readWord_letters hc] at h h'
      exact steady_readLetters l (c :: t) htask h h'
  · have hplain : ∀ c t, word ≠ '-' :: c :: t := fun c t heq => hword ⟨c, t, heq⟩
    cases hawaited : r.task.awaited? with
    | none =>
      -- the tasks agree, so neither of the two awaits a value
      have hvalue : ∀ r₀ : LevelReader, r₀.task = r.task →
          ∀ flag, r₀.pending? ≠ some (flag, none) := by
        intro r₀ hr₀ flag hpending
        rw [← hr₀, awaited?_task_eq_some_iff.2 hpending] at hawaited
        cases hawaited
      rw [readWord_value hplain (hvalue r rfl)] at h
      rw [readWord_value hplain (hvalue r' htask.symm)] at h'
      exact steady_readValue word htask h h'
    | some flag =>
      have hpending := awaited?_task_eq_some_iff.1 hawaited
      have hpending' := awaited?_task_eq_some_iff.1 (htask ▸ hawaited)
      rw [readWord_awaited hplain hpending] at h
      rw [readWord_awaited hplain hpending'] at h'
      cases h
      cases h'
      rw [task_fill hpending, task_fill hpending', htask]

theorem steady_readValues (words : List Text) : Steady fun r => words.foldlM readValue r := by
  induction words with
  | nil =>
    intro r r' s s' htask h h'
    cases h
    cases h'
    exact htask
  | cons word words ih =>
    intro r r' s s' htask h h'
    obtain ⟨m, hm, h⟩ := bind_eq_ok_iff.1 h
    obtain ⟨m', hm', h'⟩ := bind_eq_ok_iff.1 h'
    exact ih (steady_readValue word htask hm hm') h h'

theorem readWords_cons {word : Text} (hword : word ≠ flagsEnd) (l : Level) (r : LevelReader)
    (words : List Text) :
    readWords l r (word :: words) = r.readWord l word >>= fun r => readWords l r words := by
  rw [readWords, if_neg hword]

/-- Behind the last word no flag waits for its value, or for the next word. -/
theorem pending?_of_readWords {words : List Text} (h : readWords l r words = .ok s) :
    s.pending? = none := by
  induction words generalizing r with
  | nil => exact (task_settle h).2
  | cons word words ih =>
    by_cases hend : word = flagsEnd
    · rw [readWords, if_pos hend] at h
      obtain ⟨m, -, hsettled⟩ := bind_eq_ok_iff.1 h
      exact (task_settle hsettled).2
    · rw [readWords_cons hend] at h
      obtain ⟨m, -, hrest⟩ := bind_eq_ok_iff.1 h
      exact ih hrest

/-- The task says what is given for every flag that is no switch. -/
theorem get?_eq_of_task {r r' : LevelReader} (hpending : r.pending? = none)
    (hpending' : r'.pending? = none) (htask : r.task = r'.task) (hflag : flag.isSwitch = false) :
    r.get? flag = r'.get? flag := by
  have hfind : ∀ flags : List (Flag × Text), flags.find? (fun entry => entry.1 = flag) =
      (flags.filter fun entry => !entry.1.isSwitch).find? fun entry => entry.1 = flag := by
    intro flags
    rw [List.find?_filter]
    congr 1
    funext entry
    by_cases hentry : entry.1 = flag
    · simp [hentry, hflag]
    · simp [hentry]
  have hgiven : (r.flags.filter fun entry => !entry.1.isSwitch) =
      r'.flags.filter fun entry => !entry.1.isSwitch := by
    simpa [task, hpending, hpending'] using congrArg Task.given htask
  unfold get?
  rw [hfind r.flags, hfind r'.flags, hgiven]

/-! ## Switches -/

def isSwitchLetter (c : Char) : Bool :=
  ['q', 'd', 's'].contains c

/-- Is the word a switch with its long name, or one hyphen with letters of switches? -/
def isSwitchWord : Text → Bool
  | '-' :: '-' :: name => (["quiet", "debug", "summary"] : List Text).contains name
  | '-' :: c :: letters => (c :: letters).all isSwitchLetter
  | _ => false

theorem takesValue_of_isSwitch (h : flag.isSwitch) : flag.takesValue = false := by
  cases flag <;> first | rfl | cases h

theorem Task.give_of_isSwitch (t : Task) (h : flag.isSwitch) (attached? : Option Text) :
    t.give flag attached? = t := by
  cases attached? <;> simp [give, add, h, takesValue_of_isSwitch h]

theorem task_readLong_of_isSwitch {name : Text}
    (hname : name ∈ (["quiet", "debug", "summary"] : List Text))
    (h : r.readLong l name = .ok s) : s.task = r.task := by
  have hswitch : ∀ name ∈ (["quiet", "debug", "summary"] : List Text),
      ∀ flag ∈ l.ofLong? (name.takeWhile (· ≠ '=')), flag.isSwitch := by
    cases l <;> decide
  unfold readLong at h
  dsimp only at h
  cases hflag : l.ofLong? (name.takeWhile (· ≠ '=')) with
  | none =>
    rw [hflag] at h
    cases h
  | some flag =>
    rw [hflag] at h
    dsimp only at h
    split_ifs at h
    rw [task_give h, Task.give_of_isSwitch _ (hswitch name hname flag hflag)]

theorem isSwitch_of_ofShort? {c : Char} (hc : isSwitchLetter c) (h : l.ofShort? c = some flag) :
    flag.isSwitch := by
  have hquiet : ∀ flag ∈ l.ofShort? 'q', flag.isSwitch := by cases l <;> decide
  have hdebug : ∀ flag ∈ l.ofShort? 'd', flag.isSwitch := by cases l <;> decide
  have hsummary : ∀ flag ∈ l.ofShort? 's', flag.isSwitch := by cases l <;> decide
  have hletter : c = 'q' ∨ c = 'd' ∨ c = 's' := by simpa [isSwitchLetter] using hc
  rcases hletter with rfl | rfl | rfl
  · exact hquiet flag h
  · exact hdebug flag h
  · exact hsummary flag h

/-- Letters of switches in front of others leave the task as it is. -/
theorem exists_readLetters_append {switches letters : Text}
    (hswitches : ∀ c ∈ switches, isSwitchLetter c)
    (h : r.readLetters l (switches ++ letters) = .ok s) :
    ∃ m : LevelReader, m.task = r.task ∧ m.readLetters l letters = .ok s := by
  induction switches generalizing r with
  | nil => exact ⟨r, rfl, h⟩
  | cons c switches ih =>
    obtain ⟨hc, hrest⟩ := List.forall_mem_cons.1 hswitches
    rw [List.cons_append] at h
    cases hflag : l.ofShort? c with
    | none => simp [readLetters, hflag] at h
    | some flag =>
      have hswitch : flag.isSwitch := isSwitch_of_ofShort? hc hflag
      have htakes : ¬ flag.takesValue := by simp [takesValue_of_isSwitch hswitch]
      rw [readLetters_cons hflag, if_neg htakes] at h
      obtain ⟨m, hm, h⟩ := bind_eq_ok_iff.1 h
      obtain ⟨m', hm', hread⟩ := ih hrest h
      refine ⟨m', ?_, hread⟩
      rw [hm', task_give hm, Task.give_of_isSwitch _ hswitch]

/-- A switch leaves the task as it is. -/
theorem task_readWord_of_isSwitchWord {word : Text} (hword : isSwitchWord word)
    (h : r.readWord l word = .ok s) : s.task = r.task := by
  unfold isSwitchWord at hword
  split at hword
  · exact task_readLong_of_isSwitch (List.contains_iff_mem.1 hword) h
  · next c letters hc =>
    have hhyphen : c ≠ '-' := by
      rintro rfl
      exact hc rfl
    rw [readWord_letters hhyphen, ← List.append_nil (c :: letters)] at h
    obtain ⟨m, hm, hread⟩ := exists_readLetters_append (List.all_eq_true.1 hword) h
    cases hread
    exact hm
  · cases hword

end LevelReader

/-! ## Command lines -/

/--
Words that differ in nothing but switches.  A switch may stand anywhere in front of the word that
ends the flags, and its letter may stand in front of others behind one hyphen.
-/
inductive SwitchesApart : List Text → List Text → Prop
  | nil : SwitchesApart [] []
  | ending (words : List Text) :
      SwitchesApart (LevelReader.flagsEnd :: words) (LevelReader.flagsEnd :: words)
  | word {a b : List Text} {word : Text} (hword : word ≠ LevelReader.flagsEnd)
      (h : SwitchesApart a b) : SwitchesApart (word :: a) (word :: b)
  | switch {a b : List Text} {word : Text} (hword : LevelReader.isSwitchWord word)
      (h : SwitchesApart a b) : SwitchesApart a (word :: b)
  | letters {a b : List Text} {switches letters : Text}
      (hswitches : ∀ c ∈ switches, LevelReader.isSwitchLetter c) (hne : letters ≠ [])
      (hhyphen : letters.head? ≠ some '-') (h : SwitchesApart a b) :
      SwitchesApart (('-' :: letters) :: a) (('-' :: (switches ++ letters)) :: b)
  | symm {a b : List Text} (h : SwitchesApart a b) : SwitchesApart b a

namespace SwitchesApart

open LevelReader

variable {a b words : List Text}

theorem refl (words : List Text) : SwitchesApart words words := by
  induction words with
  | nil => exact nil
  | cons word words ih =>
    by_cases hend : word = flagsEnd
    · rw [hend]
      exact ending words
    · exact .word hend ih

/-- A switch may be put anywhere in front of the word that ends the flags. -/
theorem insert {before behind : List Text} {word : Text} (hbefore : flagsEnd ∉ before)
    (hword : isSwitchWord word) : SwitchesApart (before ++ behind) (before ++ word :: behind) := by
  induction before with
  | nil => exact .switch hword (refl behind)
  | cons first before ih =>
    rw [List.mem_cons, not_or] at hbefore
    obtain ⟨hfirst, hrest⟩ := hbefore
    exact .word (Ne.symm hfirst) (ih hrest)

theorem hyphen_cons_ne_flagsEnd {letters : Text} (hhyphen : letters.head? ≠ some '-') :
    '-' :: letters ≠ flagsEnd := by
  rintro heq
  obtain rfl : letters = ['-'] := (List.cons.inj heq).2
  exact hhyphen rfl

theorem readWord_hyphen_cons {letters : Text} (hne : letters ≠ [])
    (hhyphen : letters.head? ≠ some '-') (l : Level) (r : LevelReader) :
    r.readWord l ('-' :: letters) = r.readLetters l letters := by
  obtain ⟨c, t, rfl⟩ := List.exists_cons_of_ne_nil hne
  have hc : c ≠ '-' := by
    rintro rfl
    exact hhyphen rfl
  exact readWord_letters hc l r t

/-- Letters of switches in front of others begin with no hyphen either. -/
theorem begins_append {switches letters : Text} (hswitches : ∀ c ∈ switches, isSwitchLetter c)
    (hne : letters ≠ []) (hhyphen : letters.head? ≠ some '-') :
    switches ++ letters ≠ [] ∧ (switches ++ letters).head? ≠ some '-' := by
  cases switches with
  | nil => exact ⟨hne, hhyphen⟩
  | cons c switches =>
    refine ⟨List.cons_ne_nil c _, fun hhead => ?_⟩
    obtain rfl : c = '-' := Option.some.inj hhead
    exact absurd (hswitches '-' List.mem_cons_self) (by decide)

theorem task_readWords (h : SwitchesApart a b) {l : Level} {r r' s s' : LevelReader}
    (htask : r.task = r'.task) (ha : readWords l r a = .ok s) (hb : readWords l r' b = .ok s') :
    s.task = s'.task := by
  induction h generalizing r r' s s' with
  | nil => rw [(task_settle ha).1, (task_settle hb).1, htask]
  | ending words =>
    rw [readWords, if_pos rfl] at ha hb
    obtain ⟨m, hm, hsettled⟩ := bind_eq_ok_iff.1 ha
    obtain ⟨m', hm', hsettled'⟩ := bind_eq_ok_iff.1 hb
    rw [(task_settle hsettled).1, (task_settle hsettled').1]
    exact steady_readValues words htask hm hm'
  | word hword _ ih =>
    rw [readWords_cons hword] at ha hb
    obtain ⟨m, hm, ha⟩ := bind_eq_ok_iff.1 ha
    obtain ⟨m', hm', hb⟩ := bind_eq_ok_iff.1 hb
    exact ih (steady_readWord l _ htask hm hm') ha hb
  | @switch a b word hword _ ih =>
    have hend : word ≠ flagsEnd := by
      rintro rfl
      exact absurd hword (by decide)
    rw [readWords_cons hend] at hb
    obtain ⟨m', hm', hb⟩ := bind_eq_ok_iff.1 hb
    exact ih (htask.trans (task_readWord_of_isSwitchWord hword hm').symm) ha hb
  | letters hswitches hne hhyphen _ ih =>
    obtain ⟨hne', hhyphen'⟩ := begins_append hswitches hne hhyphen
    rw [readWords_cons (hyphen_cons_ne_flagsEnd hhyphen), readWord_hyphen_cons hne hhyphen] at ha
    rw [readWords_cons (hyphen_cons_ne_flagsEnd hhyphen'), readWord_hyphen_cons hne' hhyphen'] at hb
    obtain ⟨m, hm, ha⟩ := bind_eq_ok_iff.1 ha
    obtain ⟨m', hm', hb⟩ := bind_eq_ok_iff.1 hb
    -- behind the letters of switches the others are read with the same task
    obtain ⟨m₀, hm₀, hread⟩ := exists_readLetters_append hswitches hm'
    exact ih (steady_readLetters _ _ (htask.trans hm₀.symm) hm hread) ha hb
  | symm _ ih => exact (ih htask.symm hb ha).symm

end SwitchesApart

/-! ## Requests -/

namespace Request

open LevelReader

variable {environment : Environment} {word : Text} {words : List Text} {top : LevelReader}
  {r : Request}

/-- What a request asks for, apart from what is told. -/
def task (r : Request) : Request :=
  { r with quiet := false, debug := false, io := { r.io with summary := false } }

/-- What is read behind a command says what the request asks for. -/
theorem task_ofLevels (environment : Environment) (kind : TransformKind)
    (top top' : LevelReader) {behind behind' : LevelReader} (hpending : behind.pending? = none)
    (hpending' : behind'.pending? = none) (htask : behind.task = behind'.task) :
    (ofLevels environment kind top behind).task =
      (ofLevels environment kind top' behind').task := by
  have hget : ∀ flag : Flag, flag.isSwitch = false → behind.get? flag = behind'.get? flag :=
    fun flag hflag => get?_eq_of_task hpending hpending' htask hflag
  have hvalue : behind.value? = behind'.value? := by
    simpa [LevelReader.task, hpending, hpending'] using congrArg Task.value? htask
  have hcommand : commandOf environment kind behind = commandOf environment kind behind' := by
    cases kind with
    | sanitize =>
      simp only [commandOf, LevelReader.has, hget .config rfl, hget .policy rfl,
        hget .convention rfl, hget .pattern rfl, hget .marker rfl, hget .feature rfl,
        hget .audit rfl]
    | quote => rfl
    | neutralize => rfl
    | escape => rfl
  simp only [Request.task, ofLevels, LevelReader.has, hcommand, hvalue, hget .inputFile rfl,
    hget .outputFile rfl, hget .json rfl]

theorem check_eq_ok {r s : LevelReader} (h : r.check = .ok s) : s = r := by
  unfold check at h
  split at h
  · cases h
  · exact (Except.ok.inj h).symm

/-- A word is the name of a command, with what is read behind it, or else stands in front of one. -/
theorem readTop_cons_eq_ok (h : readTop environment top (word :: words) = .ok r) :
    (∃ kind behind top', TransformKind.ofName? word = some kind ∧
        readWords (Level.behind kind) {} words = .ok behind ∧
        r = ofLevels environment kind top' behind) ∨
      (TransformKind.ofName? word = none ∧ word ≠ flagsEnd ∧
        ∃ top', readTop environment top' words = .ok r) := by
  unfold readTop at h
  cases hkind : TransformKind.ofName? word with
  | some kind =>
    left
    rw [hkind] at h
    obtain ⟨behind, hbehind, h⟩ := bind_eq_ok_iff.1 h
    obtain ⟨checked, hchecked, h⟩ := bind_eq_ok_iff.1 h
    obtain ⟨top', -, h⟩ := bind_eq_ok_iff.1 h
    rw [check_eq_ok hchecked] at h
    exact ⟨kind, behind, top', rfl, hbehind, (Except.ok.inj h).symm⟩
  | none =>
    right
    rw [hkind] at h
    dsimp only at h
    split_ifs at h with hhelp hend
    · cases words <;> cases h
    · split at h
      · obtain ⟨top', -, h⟩ := bind_eq_ok_iff.1 h
        exact ⟨rfl, hend, top', h⟩
      · cases h

/-- A word that begins with a hyphen stands in front of the command. -/
theorem readTop_hyphen_cons_eq_ok {t : Text}
    (h : readTop environment top (('-' :: t) :: words) = .ok r) :
    '-' :: t ≠ flagsEnd ∧ ∃ top', readTop environment top' words = .ok r := by
  have hname : TransformKind.ofName? ('-' :: t) = none := by
    have hhead : ∀ kind ∈ TransformKind.all, kind.name.head? ≠ some '-' := by decide
    refine List.find?_eq_none.2 fun kind hkind => ?_
    rw [decide_eq_true_eq]
    intro hname
    exact hhead kind hkind (by rw [hname, List.head?_cons])
  rcases readTop_cons_eq_ok h with ⟨kind, behind, top', hkind, -, -⟩ | ⟨-, hrest⟩
  · rw [hname] at hkind
    cases hkind
  · exact hrest

end Request

namespace SwitchesApart

open LevelReader

variable {environment : Environment} {a b : List Text} {r r' : Request}

theorem exists_hyphen_cons_of_isSwitchWord {word : Text} (h : isSwitchWord word) :
    ∃ t, word = '-' :: t := by
  unfold isSwitchWord at h
  split at h
  · exact ⟨_, rfl⟩
  · exact ⟨_, rfl⟩
  · cases h

/-- In front of the command nothing is said about what is asked for. -/
theorem task_readTop (h : SwitchesApart a b) {top top' : LevelReader}
    (ha : Request.readTop environment top a = .ok r)
    (hb : Request.readTop environment top' b = .ok r') : r.task = r'.task := by
  -- the switches in front may differ, so the induction is for any two states of the reader
  induction h generalizing top top' r r' with
  | nil => cases ha
  | ending words =>
    obtain ⟨hend, -⟩ := Request.readTop_hyphen_cons_eq_ok ha
    exact absurd rfl hend
  | @word a b word hword hrest ih =>
    rcases Request.readTop_cons_eq_ok ha with ⟨kind, behind, top, hkind, hbehind, rfl⟩ |
        ⟨hnone, -, top, ha⟩
    · rcases Request.readTop_cons_eq_ok hb with ⟨kind', behind', top', hkind', hbehind', rfl⟩ |
          ⟨hnone', -⟩
      · rw [hkind] at hkind'
        cases hkind'
        have htask := hrest.task_readWords rfl hbehind hbehind'
        exact Request.task_ofLevels environment kind top top' (pending?_of_readWords hbehind)
          (pending?_of_readWords hbehind') htask
      · rw [hkind] at hnone'
        cases hnone'
    · rcases Request.readTop_cons_eq_ok hb with ⟨kind', -, -, hkind', -⟩ | ⟨-, -, top', hb⟩
      · rw [hnone] at hkind'
        cases hkind'
      · exact ih ha hb
  | switch hword _ ih =>
    obtain ⟨t, rfl⟩ := exists_hyphen_cons_of_isSwitchWord hword
    obtain ⟨-, top', hb⟩ := Request.readTop_hyphen_cons_eq_ok hb
    exact ih ha hb
  | letters _ _ _ _ ih =>
    obtain ⟨-, top, ha⟩ := Request.readTop_hyphen_cons_eq_ok ha
    obtain ⟨-, top', hb⟩ := Request.readTop_hyphen_cons_eq_ok hb
    exact ih ha hb
  | symm _ ih => exact (ih hb ha).symm

/-- Two command lines that differ in nothing but switches ask for the same. -/
theorem task_ofWords (h : SwitchesApart a b) (ha : Request.ofWords environment a = .ok r)
    (hb : Request.ofWords environment b = .ok r') : r.task = r'.task :=
  h.task_readTop ha hb

end SwitchesApart

end ShellGuard
