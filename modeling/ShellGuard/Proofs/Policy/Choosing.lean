import ShellGuard.Policy.Source
import ShellGuard.Proofs.Lists
import ShellGuard.Proofs.Runs

/-!
# Choosing — which file the name of a policy stands for

A name can stand for itself or for a file in one of four directories, which have an order.  The
first place with a file is chosen before the file is read, so whatever is wrong with it is the
answer, and what is at later places is never looked at.

## Main definitions

* `Usable`, `Says` — policies with a scrubber, and files that say such a policy.
* `Candidate` — a place that a name can stand for, with its rank.
* `Chosen` — the first of these places with a file.

## Main statements

* `ofPath_eq_ok_iff` — what is read from a path.
* `mem_ranked_iff`, `map_snd_ranked` — the candidates are the paths that are searched, in order.
* `choose?_eq_some_iff`, `choose?_eq_none_iff` — what a search finds.
* `Chosen.congr` — worlds that agree up to the chosen place choose the same.
* `loadNamed_first_file` — what the policy of a name is, and what it depends on.
-/

namespace ShellGuard
namespace Policy

variable {w w' : World} {name : Text} {path : Path} {p : Policy} {failure : Failure} {rank : Nat}

/-! ## Files -/

/-- Is there a scrubber for the policy? -/
def Usable (p : Policy) : Prop :=
  ∃ s, p.scrubber = .ok s

theorem check_eq_ok_iff : p.check = .ok () ↔ p.Usable := by
  unfold check Usable
  cases p.scrubber <;> simp [Except.map]

/-- Does the file at a path say the policy, and can the policy be used? -/
inductive Says (w : World) (path : Path) (p : Policy) : Prop
  | file {text : Text} (hread : w.read path = .ok text) (hpolicy : ofText text = .ok p)
      (husable : p.Usable) : Says w path p

theorem ofPath_eq_ok_iff : ofPath w path = .ok p ↔ Says w path p := by
  unfold ofPath ofFile
  constructor
  · intro h
    obtain ⟨text, hread, hfile⟩ := bind_eq_ok_iff.1 h
    obtain ⟨policy, hpolicy, hchecked⟩ := bind_eq_ok_iff.1 hfile
    obtain ⟨_, hcheck, hpure⟩ := bind_eq_ok_iff.1 hchecked
    cases hpure
    exact .file (mapError_eq_ok_iff.1 hread) (mapError_eq_ok_iff.1 hpolicy)
      (check_eq_ok_iff.1 (mapError_eq_ok_iff.1 hcheck))
  · rintro ⟨hread, hpolicy, husable⟩
    refine bind_eq_ok_iff.2 ⟨_, mapError_eq_ok_iff.2 hread, ?_⟩
    refine bind_eq_ok_iff.2 ⟨p, mapError_eq_ok_iff.2 hpolicy, ?_⟩
    exact bind_eq_ok_iff.2 ⟨(), mapError_eq_ok_iff.2 (check_eq_ok_iff.2 husable), rfl⟩

/-- Whatever is wrong with a file, the failure says in which step. -/
theorem steps_ne_nil_of_ofPath (h : ofPath w path = .error failure) : failure.steps ≠ [] := by
  unfold ofPath ofFile at h
  rcases bind_eq_error_iff.1 h with hread | ⟨text, -, hfile⟩
  · obtain ⟨cause, -, rfl⟩ := mapError_eq_error_iff.1 hread
    exact List.cons_ne_nil _ _
  · rcases bind_eq_error_iff.1 hfile with hpolicy | ⟨policy, -, hchecked⟩
    · obtain ⟨cause, -, rfl⟩ := mapError_eq_error_iff.1 hpolicy
      exact List.cons_ne_nil _ _
    · rcases bind_eq_error_iff.1 hchecked with hcheck | ⟨_, -, hpure⟩
      · obtain ⟨cause, -, rfl⟩ := mapError_eq_error_iff.1 hcheck
        exact List.cons_ne_nil _ _
      · cases hpure

theorem result_load (w : World) (path : Path) : (load w path).result = ofPath w path := by
  have hlog : (Run.log [.info (.concat ["Loading policy from: ", path])]).result = .ok () := rfl
  rw [load, Run.bind_of_ok hlog]
  rfl

/-- What a path says depends on nothing but what is at the path. -/
theorem load_congr (h : w'.entry path = w.entry path) : load w' path = load w path := by
  simp only [load, ofPath, World.read, h]

/-! ## Places -/

/--
The places that a name can stand for.  It is a path itself, or the name of a file in the directory
of the user, in that of the user's configurations, in that of the system, or in the current one.
-/
inductive Candidate (w : World) (name : Text) : (rank : Nat) → Path → Prop
  | itself : Candidate w name 0 name
  | user {home : Path} (h : w.home? = some home) :
      Candidate w name 1
        (Path.join (Path.join (Path.join home ".argsafe") "policies") (name ++ ".yaml".toList))
  | config {home : Path} (h : w.configHome? = some home) :
      Candidate w name 2
        (Path.join (Path.join (Path.join home "argsafe") "policies") (name ++ ".yaml".toList))
  | system : Candidate w name 3 (Path.join "/etc/argsafe/policies" (name ++ ".yaml".toList))
  | current : Candidate w name 4 (Path.join "./config" (name ++ ".yaml".toList))

structure Chosen (w : World) (name : Text) (rank : Nat) (path : Path) : Prop where
  candidate : Candidate w name rank path
  isFile : (w.entry path).isFile
  first : ∀ earlier other, Candidate w name earlier other → earlier < rank →
    ¬ (w.entry other).isFile

def ranked (w : World) (name : Text) : List (Nat × Path) :=
  let file := name ++ ".yaml".toList
  let user := w.home?.map fun home =>
    (1, Path.join (Path.join (Path.join home ".argsafe") "policies") file)
  let config := w.configHome?.map fun home =>
    (2, Path.join (Path.join (Path.join home "argsafe") "policies") file)
  (0, name) :: (user.toList ++ config.toList ++
    [(3, Path.join "/etc/argsafe/policies" file), (4, Path.join "./config" file)])

theorem mem_ranked_iff : (rank, path) ∈ ranked w name ↔ Candidate w name rank path := by
  simp only [ranked, List.mem_cons, List.mem_append, Option.mem_toList, Option.map_eq_some_iff,
    Prod.mk.injEq, List.not_mem_nil, or_false]
  constructor
  · rintro (⟨rfl, rfl⟩ | (⟨home, h, rfl, rfl⟩ | ⟨home, h, rfl, rfl⟩) | ⟨rfl, rfl⟩ | ⟨rfl, rfl⟩)
    · exact .itself
    · exact .user h
    · exact .config h
    · exact .system
    · exact .current
  · intro h
    cases h with
    | itself => exact .inl ⟨rfl, rfl⟩
    | user h => exact .inr (.inl (.inl ⟨_, h, rfl, rfl⟩))
    | config h => exact .inr (.inl (.inr ⟨_, h, rfl, rfl⟩))
    | system => exact .inr (.inr (.inl ⟨rfl, rfl⟩))
    | current => exact .inr (.inr (.inr ⟨rfl, rfl⟩))

/-- The places are the name and the paths that are searched behind it. -/
theorem map_snd_ranked (w : World) (name : Text) :
    (ranked w name).map Prod.snd = name :: candidates w name := by
  unfold ranked candidates directories
  cases w.home? <;> cases w.configHome? <;> rfl

theorem pairwise_ranked (w : World) (name : Text) :
    (ranked w name).Pairwise fun a b => a.1 < b.1 := by
  unfold ranked
  cases w.home? <;> cases w.configHome? <;> simp

/-- The search goes through the places by rank, and stops at the first one with a file. -/
theorem find?_ranked_iff :
    (ranked w name).find? (fun place => (w.entry place.2).isFile) = some (rank, path) ↔
      Chosen w name rank path := by
  rw [find?_eq_some_iff_of_pairwise (pairwise_ranked w name)]
  constructor
  · rintro ⟨hmem, hfile, hlower⟩
    refine ⟨mem_ranked_iff.1 hmem, hfile, ?_⟩
    intro earlier other hother
    exact hlower (earlier, other) (mem_ranked_iff.2 hother)
  · intro h
    refine ⟨mem_ranked_iff.2 h.candidate, h.isFile, ?_⟩
    rintro ⟨earlier, other⟩ hmem
    exact h.first earlier other (mem_ranked_iff.1 hmem)

theorem choose?_eq (w : World) (name : Text) :
    choose? w name =
      ((ranked w name).find? fun place => (w.entry place.2).isFile).map Prod.snd := by
  rw [choose?, ← map_snd_ranked, List.find?_map]
  rfl

theorem choose?_eq_some_iff : choose? w name = some path ↔ ∃ rank, Chosen w name rank path := by
  rw [choose?_eq, Option.map_eq_some_iff]
  constructor
  · rintro ⟨⟨rank, found⟩, hfind, rfl⟩
    exact ⟨rank, find?_ranked_iff.1 hfind⟩
  · rintro ⟨rank, h⟩
    exact ⟨(rank, path), find?_ranked_iff.2 h, rfl⟩

theorem choose?_eq_none_iff :
    choose? w name = none ↔ ∀ rank path, Candidate w name rank path → ¬ (w.entry path).isFile := by
  rw [choose?_eq, Option.map_eq_none_iff, List.find?_eq_none]
  constructor
  · intro h rank path hcandidate
    exact h (rank, path) (mem_ranked_iff.2 hcandidate)
  · rintro h ⟨rank, path⟩ hmem
    exact h rank path (mem_ranked_iff.1 hmem)

/-- If there is a file at all, there is a first one. -/
theorem exists_chosen_iff :
    (∃ rank path, Chosen w name rank path) ↔
      ∃ rank path, Candidate w name rank path ∧ (w.entry path).isFile := by
  constructor
  · rintro ⟨rank, path, h⟩
    exact ⟨rank, path, h.candidate, h.isFile⟩
  · rintro ⟨rank, path, hcandidate, hfile⟩
    cases hchoose : choose? w name with
    | none => exact absurd hfile (choose?_eq_none_iff.1 hchoose rank path hcandidate)
    | some first =>
      obtain ⟨rank, h⟩ := choose?_eq_some_iff.1 hchoose
      exact ⟨rank, first, h⟩

/-! ## Two worlds -/

/-- Where the places are depends on nothing but the environment and the user's account. -/
theorem Candidate.congr (henvironment : w'.environment = w.environment)
    (haccount : w'.accountHome? = w.accountHome?) (h : Candidate w name rank path) :
    Candidate w' name rank path := by
  have hhome : w'.home? = w.home? := by
    simp only [World.home?, henvironment, haccount]
  have hconfig : w'.configHome? = w.configHome? := by
    simp only [World.configHome?, henvironment, hhome]
  cases h with
  | itself => exact .itself
  | user h => exact .user (hhome.trans h)
  | config h => exact .config (hconfig.trans h)
  | system => exact .system
  | current => exact .current

/-- Worlds that agree at the chosen place and at all places before it choose the same. -/
theorem Chosen.congr (h : Chosen w name rank path) (henvironment : w'.environment = w.environment)
    (haccount : w'.accountHome? = w.accountHome?)
    (hagree : ∀ earlier other, Candidate w name earlier other → earlier ≤ rank →
      w'.entry other = w.entry other) : Chosen w' name rank path where
  candidate := h.candidate.congr henvironment haccount
  isFile := by
    rw [hagree rank path h.candidate (Nat.le_refl rank)]
    exact h.isFile
  first := by
    intro earlier other hother hlt
    have hthere := hother.congr henvironment.symm haccount.symm
    rw [hagree earlier other hthere (Nat.le_of_lt hlt)]
    exact h.first earlier other hthere hlt

/-! ## Names -/

theorem loadNamed_of_chosen (h : Chosen w name rank path) :
    loadNamed w name =
      (Run.log [.debug (.concat ["Attempting to load policy from: '", name, "'"])] >>=
        fun _ => load w path) := by
  rw [loadNamed, choose?_eq_some_iff.2 ⟨rank, h⟩]

theorem result_loadNamed_of_chosen (h : Chosen w name rank path) :
    (loadNamed w name).result = (load w path).result := by
  rw [loadNamed_of_chosen h, Run.bind_of_ok rfl]

theorem result_loadNamed_of_none (h : choose? w name = none) :
    (loadNamed w name).result = .error (.ofCause (.unknownPolicy name)) := by
  rw [loadNamed, h, Run.bind_of_ok rfl]
  rfl

/-- A name without a file is the only failure that is not one of a step. -/
theorem result_loadNamed_eq_unknown_iff :
    (loadNamed w name).result = .error (.ofCause (.unknownPolicy name)) ↔
      choose? w name = none := by
  constructor
  · intro h
    cases hchoose : choose? w name with
    | none => rfl
    | some path =>
      obtain ⟨rank, hchosen⟩ := choose?_eq_some_iff.1 hchoose
      rw [result_loadNamed_of_chosen hchosen, result_load] at h
      exact absurd rfl (steps_ne_nil_of_ofPath h)
  · exact result_loadNamed_of_none

theorem result_loadNamed_eq_ok_iff :
    (loadNamed w name).result = .ok p ↔ ∃ rank path, Chosen w name rank path ∧ Says w path p := by
  constructor
  · intro h
    cases hchoose : choose? w name with
    | none =>
      rw [result_loadNamed_of_none hchoose] at h
      cases h
    | some path =>
      obtain ⟨rank, hchosen⟩ := choose?_eq_some_iff.1 hchoose
      rw [result_loadNamed_of_chosen hchosen, result_load] at h
      exact ⟨rank, path, hchosen, ofPath_eq_ok_iff.1 h⟩
  · rintro ⟨rank, path, hchosen, hstated⟩
    rw [result_loadNamed_of_chosen hchosen, result_load]
    exact ofPath_eq_ok_iff.2 hstated

/--
The policy of a name is that of one path: the first of the places with a file, which there is if
there is a file at any of them.  A name is unknown exactly if there is none.  A file that is chosen
and says no usable policy is a failure, which is not that of an unknown name.  In a world that
agrees at the chosen place and at all places before it, the outcome is the same.
-/
theorem loadNamed_first_file (w : World) (name : Text) :
    (∀ rank path, Chosen w name rank path → (loadNamed w name).result = (load w path).result) ∧
    ((∃ rank path, Chosen w name rank path) ↔
      ∃ rank path, Candidate w name rank path ∧ (w.entry path).isFile) ∧
    ((loadNamed w name).result = .error (.ofCause (.unknownPolicy name)) ↔
      ∀ rank path, Candidate w name rank path → ¬ (w.entry path).isFile) ∧
    (∀ p, (loadNamed w name).result = .ok p ↔
      ∃ rank path, Chosen w name rank path ∧ Says w path p) ∧
    (∀ rank path, Chosen w name rank path → (∀ p, ¬ Says w path p) →
      ∃ failure, (loadNamed w name).result = .error failure ∧
        failure ≠ .ofCause (.unknownPolicy name)) ∧
    ∀ w' rank path, w'.environment = w.environment → w'.accountHome? = w.accountHome? →
      Chosen w name rank path →
      (∀ earlier other, Candidate w name earlier other → earlier ≤ rank →
        w'.entry other = w.entry other) →
      loadNamed w' name = loadNamed w name := by
  refine ⟨?_, exists_chosen_iff, ?_, ?_, ?_, ?_⟩
  · intro rank path h
    exact result_loadNamed_of_chosen h
  · exact result_loadNamed_eq_unknown_iff.trans choose?_eq_none_iff
  · intro p
    exact result_loadNamed_eq_ok_iff
  · intro rank path hchosen hunusable
    have hload := result_loadNamed_of_chosen hchosen
    rw [result_load] at hload
    cases hpath : ofPath w path with
    | ok p => exact absurd (ofPath_eq_ok_iff.1 hpath) (hunusable p)
    | error failure =>
      refine ⟨failure, hload.trans hpath, ?_⟩
      -- a failure to load says in which step, while an unknown name has no steps
      rintro rfl
      exact steps_ne_nil_of_ofPath hpath rfl
  · intro w' rank path henvironment haccount hchosen hagree
    have hthere := hchosen.congr henvironment haccount hagree
    have hsame := hagree rank path hchosen.candidate (Nat.le_refl rank)
    rw [loadNamed_of_chosen hthere, loadNamed_of_chosen hchosen, load_congr hsame]

/-- Octets that are no text under the name `team` in the user's directory, and any current one. -/
def teamWorld (current : Entry) : World where
  environment := fun _ => none
  accountHome? := some ['/', 'h']
  entry := fun path =>
    if path = "/h/.argsafe/policies/team.yaml".toList then ⟨true, .ok ⟨[], false⟩, .ok ()⟩
    else if path = "./config/team.yaml".toList then current
    else ⟨false, .error .notFound, .error .notFound⟩
  input := .error .notFound

/-- The broken file is the answer, whether or not there is a policy in the current directory. -/
theorem loadNamed_first_file_broken :
    (∃ failure, (loadNamed (teamWorld ⟨true, .ok (.ofText []), .ok ()⟩) "team".toList).result =
        .error failure ∧ failure ≠ .ofCause (.unknownPolicy "team".toList)) ∧
      loadNamed (teamWorld ⟨false, .error .notFound, .error .notFound⟩) "team".toList =
        loadNamed (teamWorld ⟨true, .ok (.ofText []), .ok ()⟩) "team".toList := by
  have hchosen : Chosen (teamWorld ⟨true, .ok (.ofText []), .ok ()⟩) "team".toList 1
      "/h/.argsafe/policies/team.yaml".toList := by
    refine find?_ranked_iff.1 ?_
    decide +kernel
  obtain ⟨-, -, -, -, hfails, hsame⟩ :=
    loadNamed_first_file (teamWorld ⟨true, .ok (.ofText []), .ok ()⟩) "team".toList
  refine ⟨hfails 1 _ hchosen ?_, hsame _ 1 _ rfl rfl hchosen ?_⟩
  · rintro p ⟨hread, -, -⟩
    cases hread
  · -- the worlds differ at one path, which no place up to the chosen one is
    intro earlier other hcandidate hle
    have hother : other ≠ "./config/team.yaml".toList := by
      cases hcandidate with
      | itself => decide +kernel
      | user h =>
        cases h
        decide +kernel
      | config _ => contradiction
      | system => contradiction
      | current => contradiction
    simp only [teamWorld, if_neg hother]

end Policy
end ShellGuard
