import ShellGuard.System.World

/-!
# File trees — files and directories by the names along their paths

A tree answers about paths as a file system does: it is walked from the root or from the current
directory, one name at a time.

## Main definitions

* `FileNode`, `FileTree` — what is in a tree, and where.
* `FileTree.find` — where a path leads.
* `FileTree.entry` — the answers about a path; `FileTree.write` — the tree with a file written.
-/

namespace ShellGuard

inductive FileNode
  | directory
  | file (content : Decoded)
  /-- Reads as empty, and forgets what is written. -/
  | void
  deriving DecidableEq, Repr

/-- Files and directories by the names along their paths; the root is always there. -/
structure FileTree where
  nodes : List (List Text × FileNode) := []
  deriving DecidableEq, Repr

inductive Destination
  | node (place : List Text) (node : FileNode)
  /-- Nothing is there, in a directory that is. -/
  | vacant (place : List Text)
  deriving DecidableEq, Repr

namespace FileTree

def at? (tree : FileTree) (place : List Text) : Option FileNode :=
  if place = [] then some .directory
  else (tree.nodes.find? fun entry => entry.1 = place).map Prod.snd

def put (tree : FileTree) (place : List Text) (node : FileNode) : FileTree :=
  ⟨(place, node) :: tree.nodes.filter fun entry => entry.1 ≠ place⟩

theorem at?_put (tree : FileTree) {place : List Text} (h : place ≠ []) (node : FileNode) :
    (tree.put place node).at? place = some node := by
  simp [at?, put, h]

/-- Names of more bytes than this are too long. -/
def nameLimit : Nat := 255

/-- Paths of so many bytes are too long. -/
def pathLimit : Nat := 4096

def walk (tree : FileTree) : (place : List Text) → (names : List Text) → Except IoError Destination
  | place, [] =>
    match tree.at? place with
    | some node => .ok (.node place node)
    | none => .error .notFound
  | place, name :: names =>
    match tree.at? place with
    | none => .error .notFound
    | some .directory =>
      if name = ['.'] then tree.walk place names
      else if name = ['.', '.'] then tree.walk place.dropLast names
      else if nameLimit < name.byteSize then .error .nameTooLong
      else if (tree.at? (place ++ [name])).isSome then tree.walk (place ++ [name]) names
      else if names = [] then .ok (.vacant (place ++ [name]))
      else .error .notFound
    | some _ => .error .notDirectory

/-- Where a path leads, seen from the directory `here`. -/
def find (tree : FileTree) (here : List Text) (path : Path) : Except IoError Destination :=
  if '\x00' ∈ path then .error .nameHasNul
  else if path = [] then .error .notFound
  else if pathLimit ≤ Text.byteSize path then .error .nameTooLong
  else tree.walk (if Path.isAbsolute path then [] else here) (Path.names path)

/-- Does the path ask for a directory by a slash at its end? -/
def asksDirectory (path : Path) : Bool :=
  path.getLast? = some '/'

def content (tree : FileTree) (here : List Text) (path : Path) : Except IoError Decoded :=
  match tree.find here path with
  | .error error => .error error
  | .ok (.vacant _) => .error .notFound
  | .ok (.node _ .directory) => .error .isDirectory
  | .ok (.node _ (.file content)) =>
    if asksDirectory path then .error .notDirectory else .ok content
  | .ok (.node _ .void) =>
    if asksDirectory path then .error .notDirectory else .ok (.ofText [])

def writable (tree : FileTree) (here : List Text) (path : Path) : Except IoError Unit :=
  match tree.find here path with
  | .error error => .error error
  | .ok (.node _ .directory) => .error .isDirectory
  | .ok _ => if asksDirectory path then .error .isDirectory else .ok ()

def entry (tree : FileTree) (here : List Text) (path : Path) : Entry where
  isFile :=
    match tree.find here path with
    | .ok (.node _ (.file _)) => !asksDirectory path
    | _ => false
  content := tree.content here path
  writable := tree.writable here path

/-- The tree with a text written to a path, where that may be done. -/
def write (tree : FileTree) (here : List Text) (path : Path) (text : Text) : FileTree :=
  match tree.find here path with
  | .ok (.node place (.file _)) => tree.put place (.file (.ofText text))
  | .ok (.vacant place) => tree.put place (.file (.ofText text))
  | _ => tree

end FileTree

end ShellGuard
