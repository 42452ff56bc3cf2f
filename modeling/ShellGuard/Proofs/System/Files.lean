import ShellGuard.Proofs.Text.Octets
import ShellGuard.System.FileTree

/-!
# Files — what is written to a path is read from it

A file is put where its path leads, in the place of another file or in a vacant one.  The walk along
the path goes through directories, none of which is that place, so it leads to the new file.

## Main definitions

* `World.Holds` — the file at a path consists of the octets of a text.
* `Destination.place` — the place to which a path leads.

## Main statements

* `FileTree.walk_put` — a walk leads to what was put where it ended.
* `FileTree.content_write` — what is written to a path is what the file there says.
* `FileTree.holds_of_write` — so it is in a world that answers as the tree does.
* `World.read_of_holds` — the octets of a text are read as that text.
-/

namespace ShellGuard

/-! ## Worlds -/

/-- Does the file at the path consist of the octets of the text? -/
def World.Holds (w : World) (path : Path) (t : Text) : Prop :=
  (w.entry path).content = .ok (.ofOctets t.octets)

theorem World.read_of_holds {w : World} {path : Path} {t : Text} (h : w.Holds path t) :
    w.read path = .ok t := by
  rw [read, show (w.entry path).content = _ from h, Decoded.ofOctets_octets]
  rfl

/-! ## Trees -/

def Destination.place : Destination → List Text
  | .node place _ => place
  | .vacant place => place

def Destination.found? : Destination → Option FileNode
  | .node _ found => some found
  | .vacant _ => none

@[simp] theorem Destination.place_node (place : List Text) (found : FileNode) :
    (node place found).place = place := rfl

@[simp] theorem Destination.place_vacant (place : List Text) : (vacant place).place = place := rfl

@[simp] theorem Destination.found?_node (place : List Text) (found : FileNode) :
    (node place found).found? = some found := rfl

@[simp] theorem Destination.found?_vacant (place : List Text) : (vacant place).found? = none := rfl

namespace FileTree

variable {tree : FileTree} {here start place : List Text} {names : List Text} {path : Path}
  {node : FileNode} {destination : Destination}

theorem at?_nil (tree : FileTree) : tree.at? [] = some .directory :=
  if_pos rfl

theorem at?_put_of_ne (tree : FileTree) {other : List Text} (h : other ≠ place)
    (node : FileNode) : (tree.put place node).at? other = tree.at? other := by
  unfold at? put
  split
  · rfl
  · -- the search passes over what was put, and misses nothing of what was taken away
    have hsame (entry : List Text × FileNode) :
        (entry.1 ≠ place ∧ entry.1 = other) ↔ entry.1 = other := by
      refine and_iff_right_of_imp ?_
      rintro rfl
      exact h
    rw [List.find?_cons_of_neg (by simpa using h.symm), List.find?_filter]
    simp only [decide_eq_true_eq, hsame]

/-! ## Walks -/

/-- Is the name that of a file or directory inside the directory where the walk is? -/
def Inner (name : Text) : Prop :=
  name ≠ ['.'] ∧ name ≠ ['.', '.'] ∧ name.byteSize ≤ nameLimit

/-- The steps of a walk that comes to its end; all of them are taken from directories. -/
inductive Leads (tree : FileTree) : (start names : List Text) → Destination → Prop
  | here {start : List Text} {node : FileNode} (hnode : tree.at? start = some node) :
      Leads tree start [] (.node start node)
  | vacant {start : List Text} {name : Text} (hstart : tree.at? start = some .directory)
      (hname : Inner name) (hnone : tree.at? (start ++ [name]) = none) :
      Leads tree start [name] (.vacant (start ++ [name]))
  | stay {start names : List Text} {destination : Destination}
      (hstart : tree.at? start = some .directory) (h : Leads tree start names destination) :
      Leads tree start (['.'] :: names) destination
  | back {start names : List Text} {destination : Destination}
      (hstart : tree.at? start = some .directory)
      (h : Leads tree start.dropLast names destination) :
      Leads tree start (['.', '.'] :: names) destination
  | inward {start names : List Text} {name : Text} {destination : Destination}
      (hstart : tree.at? start = some .directory) (hname : Inner name)
      (hthere : (tree.at? (start ++ [name])).isSome)
      (h : Leads tree (start ++ [name]) names destination) :
      Leads tree start (name :: names) destination

theorem leads_of_walk (h : tree.walk start names = .ok destination) :
    tree.Leads start names destination := by
  induction names generalizing start with
  | nil =>
    rw [walk] at h
    split at h
    · next hnode =>
      cases h
      exact .here hnode
    · cases h
  | cons name names ih =>
    rw [walk] at h
    split at h
    · cases h
    · next hstart =>
      split_ifs at h with hdot hdots hlong hthere hlast
      · rw [hdot]
        exact .stay hstart (ih h)
      · rw [hdots]
        exact .back hstart (ih h)
      · exact .inward hstart ⟨hdot, hdots, Nat.le_of_not_lt hlong⟩ hthere (ih h)
      · cases h
        rw [hlast]
        exact .vacant hstart ⟨hdot, hdots, Nat.le_of_not_lt hlong⟩ (by simpa using hthere)
    · cases h

/-- What is at the end of a walk is at its place. -/
theorem Leads.at?_place (h : tree.Leads start names destination) :
    tree.at? destination.place = destination.found? := by
  induction h with
  | here hnode => simpa using hnode
  | vacant _ _ hnone => simpa using hnone
  | stay _ _ ih => exact ih
  | back _ _ ih => exact ih
  | inward _ _ _ _ ih => exact ih

theorem walk_inward {name : Text} (hstart : tree.at? start = some .directory)
    (hname : Inner name) (hthere : (tree.at? (start ++ [name])).isSome) :
    tree.walk start (name :: names) = tree.walk (start ++ [name]) names := by
  obtain ⟨hdot, hdots, hlong⟩ := hname
  simp only [walk, hstart, if_neg hdot, if_neg hdots, if_neg (Nat.not_lt.2 hlong), if_pos hthere]

/-- In a tree with the same directories a walk leads to the same place, if something is there. -/
theorem Leads.walk_of_kept {new : FileTree} (h : tree.Leads start names destination)
    (hdirectory : ∀ place, tree.at? place = some .directory → new.at? place = some .directory)
    (hthere : ∀ place, (tree.at? place).isSome → (new.at? place).isSome)
    (hnode : new.at? destination.place = some node) :
    new.walk start names = .ok (.node destination.place node) := by
  induction h with
  | here =>
    rw [Destination.place_node] at hnode ⊢
    rw [walk, hnode]
  | vacant hstart hname =>
    rw [Destination.place_vacant] at hnode
    rw [walk_inward (hdirectory _ hstart) hname (by simp [hnode])]
    simp [walk, hnode]
  | stay hstart _ ih =>
    rw [walk, hdirectory _ hstart]
    exact ih hnode
  | back hstart _ ih =>
    rw [walk, hdirectory _ hstart]
    exact ih hnode
  | inward hstart hname hinner _ ih =>
    rw [walk_inward (hdirectory _ hstart) hname (hthere _ hinner)]
    exact ih hnode

/-- A walk leads to what was put where it ended, unless a directory was there. -/
theorem Leads.walk_put (h : tree.Leads start names destination)
    (hfree : destination.found? ≠ some .directory) (node : FileNode) :
    (tree.put destination.place node).walk start names = .ok (.node destination.place node) := by
  rw [← h.at?_place] at hfree
  have hput : (tree.put destination.place node).at? destination.place = some node := by
    refine tree.at?_put (fun hroot => hfree ?_) node
    rw [hroot, at?_nil]
  -- only what was at the end of the walk is another thing now, and that was no directory
  refine h.walk_of_kept (fun place hplace => ?_) (fun place hplace => ?_) hput
  · rw [at?_put_of_ne tree ?_ node, hplace]
    rintro rfl
    exact hfree hplace
  · by_cases heq : place = destination.place
    · simp [heq, hput]
    · rwa [at?_put_of_ne tree heq]

/-! ## Files -/

theorem exists_leads_of_find (h : tree.find here path = .ok destination) :
    ∃ start names, tree.Leads start names destination ∧
      ∀ other : FileTree, other.find here path = other.walk start names := by
  unfold find at h ⊢
  split_ifs at h ⊢ with hnul hempty hlong habsolute
  · exact ⟨_, _, leads_of_walk h, fun _ => rfl⟩
  · exact ⟨_, _, leads_of_walk h, fun _ => rfl⟩

/-- A file may be written unless there is a directory, or the path asks for one. -/
theorem exists_destination_of_writable (h : tree.writable here path = .ok ()) :
    ∃ destination, tree.find here path = .ok destination ∧
      destination.found? ≠ some .directory ∧ asksDirectory path = false := by
  unfold writable at h
  split at h
  · cases h
  · cases h
  · next destination hdirectory hfind =>
    refine ⟨destination, hfind, ?_, ?_⟩
    · cases destination with
      | node place found =>
        rintro ⟨⟩
        exact hdirectory place rfl
      | vacant place => exact nofun
    · split at h
      · cases h
      · next hasks => simpa using hasks

theorem write_of_find (hfind : tree.find here path = .ok destination)
    (hfree : destination.found? ≠ some .directory) (hvoid : destination.found? ≠ some .void)
    (t : Text) : tree.write here path t = tree.put destination.place (.file (.ofText t)) := by
  unfold write
  cases destination with
  | vacant place => simp [hfind]
  | node place found =>
    cases found with
    | directory => exact absurd rfl hfree
    | file content => simp [hfind]
    | void => exact absurd rfl hvoid

/-- What is written to a path is what the file there says, unless all is forgotten there. -/
theorem content_write (h : tree.writable here path = .ok ())
    (hvoid : ∀ place, tree.find here path ≠ .ok (.node place .void)) (t : Text) :
    (tree.write here path t).content here path = .ok (.ofText t) := by
  obtain ⟨destination, hfind, hfree, hasks⟩ := exists_destination_of_writable h
  have hkept : destination.found? ≠ some .void := by
    cases destination with
    | node place found =>
      rintro ⟨⟩
      exact hvoid place hfind
    | vacant place => exact nofun
  obtain ⟨start, names, hleads, hsteps⟩ := exists_leads_of_find hfind
  rw [content, write_of_find hfind hfree hkept, hsteps, hleads.walk_put hfree]
  simp [hasks]

/-- A world that answers as the tree does after it was written to holds what was written. -/
theorem holds_of_write {w : World} {t : Text} (h : tree.writable here path = .ok ())
    (hvoid : ∀ place, tree.find here path ≠ .ok (.node place .void))
    (hw : w.entry path = (tree.write here path t).entry here path) : w.Holds path t := by
  rw [World.Holds, hw, Decoded.ofOctets_octets]
  exact content_write h hvoid t

end FileTree
end ShellGuard
