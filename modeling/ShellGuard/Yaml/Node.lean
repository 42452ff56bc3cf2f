import ShellGuard.Yaml.Fault
import ShellGuard.Yaml.Token

/-!
# Nodes — the tree that a document describes

Nodes are read from tokens.  Where a node may be left out, an empty plain scalar stands for it.  An
anchor names a node, and an alias stands for the node that had its name last.

## Main definitions

* `Node` — scalars, sequences, mappings and aliases.
* `Document` — the root of a tree, and the nodes that have anchors.
* `Document.ofText?` — the document of a text, if it holds just one; an empty text holds none.
-/

namespace ShellGuard.Yaml

structure Scalar where
  text : Text
  style : Style
  tag? : Option TagText
  deriving DecidableEq, Repr

/-- The scalar that stands for a node that is left out. -/
def Scalar.empty (tag? : Option TagText) : Scalar :=
  ⟨[], .plain, tag?⟩

inductive Node
  | scalar (s : Scalar)
  | sequence (items : List Node)
  | mapping (entries : List (Node × Node))
  /-- The node with the anchor of the number. -/
  | alias (anchor : Nat)
  deriving Repr

/-- The root of a tree, and the nodes that have anchors, by the numbers of these. -/
structure Document where
  root : Node
  anchored : List (Nat × Node)
  deriving Repr

/-- The node, or the one that it is an alias of. -/
def Document.resolve? (d : Document) : Node → Option Node
  | .alias anchor => (d.anchored.find? fun entry => entry.1 = anchor).map Prod.snd
  | node => some node

/-! ## Reading -/

/-- The tokens that are still ahead, and what is known of names. -/
structure NodeReader where
  ahead : List Token
  /-- The texts that handles stand for. -/
  handles : List (Text × TagText) := []
  /-- The names and numbers of anchors, the latest first. -/
  names : List (Text × Nat) := []
  /-- The nodes that have anchors, by the numbers of these. -/
  anchored : List (Nat × Node) := []

abbrev Reading := StateT NodeReader (Except Fault)

namespace Reading

def peek : Reading (Option Token) :=
  return (← get).ahead.head?

def skip : Reading Unit :=
  modify fun r => { r with ahead := r.ahead.tail }

/-- Passes over the next token if it is `t`, and says whether it did. -/
def accept (t : Token) : Reading Bool := do
  if (← peek) = some t then
    skip
    return true
  else
    return false

def isAhead (ts : List Token) : Reading Bool :=
  return (← peek).any ts.contains

/-- Passes over the next token, which must be `t`. -/
def expect (t : Token) : Reading Unit := do
  unless ← accept t do throw .malformed

def anchor? : Reading (Option Text) := do
  match ← peek with
  | some (.anchor name) =>
    skip
    return some name
  | _ => return none

def tagText (tag : WrittenTag) : Reading TagText := do
  if tag.handle.isEmpty then return tag.suffix
  else
    match (← get).handles.find? fun entry => entry.1 = tag.handle with
    | some (_, start) => return start ++ tag.suffix
    | none => throw .malformed

def tag? : Reading (Option WrittenTag) := do
  match ← peek with
  | some (.tag tag) =>
    skip
    return some tag
  | _ => return none

/-- The anchor and the tag ahead, in any order. -/
def properties : Reading (Option Text × Option TagText) := do
  let early? ← anchor?
  let tag? ← tag?
  -- Only one anchor is read, in front of the tag or behind it.
  let anchor? ← if early?.isSome then pure early? else anchor?
  match tag? with
  | some tag => return (anchor?, some (← tagText tag))
  | none => return (anchor?, none)

def nameAnchor (name : Text) : Reading Nat := do
  let number := (← get).names.length
  modify fun r => { r with names := (name, number) :: r.names }
  return number

def keepAnchored (number : Nat) (node : Node) : Reading Unit :=
  modify fun r => { r with anchored := (number, node) :: r.anchored }

/-- The alias of the latest anchor with a name. -/
def aliasOf (name : Text) : Reading Node := do
  match (← get).names.find? fun entry => entry.1 = name with
  | some (_, number) => return .alias number
  | none => throw .unknownAlias

/-- A node that is left out. -/
def absent : Node := .scalar (.empty none)

mutual

/--
A node.  `inBlock` says whether it may be a block, and `asValue` whether it may be a sequence that
is indented no further than the mapping it is a value in.  `fuel` bounds the nodes by the tokens.
-/
def node : (fuel : Nat) → (inBlock asValue : Bool) → Reading Node
  | 0, _, _ => throw .malformed
  | fuel + 1, inBlock, asValue => do
    match ← peek with
    | some (.alias name) =>
      skip
      aliasOf name
    | _ =>
      let (anchor?, tag?) ← properties
      match anchor? with
      | some name =>
        -- The name is known inside of the node, too.
        let number ← nameAnchor name
        let node ← content fuel inBlock asValue true tag?
        keepAnchored number node
        return node
      | none => content fuel inBlock asValue tag?.isSome tag?

/-- A node without its anchor and tag; `optional` says whether it may be left out. -/
def content : (fuel : Nat) → (inBlock asValue optional : Bool) → (tag? : Option TagText) →
    Reading Node
  | 0, _, _, _, _ => throw .malformed
  | fuel + 1, inBlock, asValue, optional, tag? => do
    match ← peek with
    | some (.scalar text style) =>
      skip
      return .scalar ⟨text, style, if tag? = some [some '!'] then none else tag?⟩
    | some .openBracket =>
      skip
      return .sequence (← flowItems fuel true)
    | some .openBrace =>
      skip
      return .mapping (← flowEntries fuel true)
    | some .item =>
      -- The hyphens of a value may stand at the indentation of its key; no block is opened then.
      if asValue then return .sequence (← plainItems fuel)
      else leftOut optional tag?
    | some .blockSequence =>
      if inBlock then
        skip
        return .sequence (← blockItems fuel)
      else leftOut optional tag?
    | some .blockMapping =>
      if inBlock then
        skip
        return .mapping (← blockEntries fuel)
      else leftOut optional tag?
    | _ => leftOut optional tag?
where
  /-- A node of which there is nothing but an anchor or a tag. -/
  leftOut (optional : Bool) (tag? : Option TagText) : Reading Node :=
    if optional then return .scalar (.empty tag?) else throw .malformed

/-- A node, unless one of `ends` is ahead. -/
def nodeBefore : (fuel : Nat) → (ends : List Token) → (inBlock asValue : Bool) → Reading Node
  | 0, _, _, _ => throw .malformed
  | fuel + 1, ends, inBlock, asValue => do
    if ← isAhead ends then return absent else node fuel inBlock asValue

def blockItems : (fuel : Nat) → Reading (List Node)
  | 0 => throw .malformed
  | fuel + 1 => do
    if ← accept .item then
      let item ← nodeBefore fuel [.item, .blockEnd] true false
      return item :: (← blockItems fuel)
    else
      expect .blockEnd
      return []

/-- The items of a sequence that is no block of its own. -/
def plainItems : (fuel : Nat) → Reading (List Node)
  | 0 => throw .malformed
  | fuel + 1 => do
    if ← accept .item then
      let item ← nodeBefore fuel [.item, .key, .value, .blockEnd] true false
      return item :: (← plainItems fuel)
    else
      return []

def blockEntries : (fuel : Nat) → Reading (List (Node × Node))
  | 0 => throw .malformed
  | fuel + 1 => do
    if ← accept .key then
      let key ← nodeBefore fuel [.key, .value, .blockEnd] true true
      let value ←
        if ← accept .value then nodeBefore fuel [.key, .value, .blockEnd] true true
        else pure absent
      return (key, value) :: (← blockEntries fuel)
    else
      expect .blockEnd
      return []

/-- The items between brackets; all but the first have a comma in front of them. -/
def flowItems : (fuel : Nat) → (first : Bool) → Reading (List Node)
  | 0, _ => throw .malformed
  | fuel + 1, first => do
    if ← accept .closeBracket then return []
    else
      unless first do expect .comma
      if ← accept .key then
        let entry ← flowPair fuel
        return .mapping [entry] :: (← flowItems fuel false)
      else if ← accept .closeBracket then return []
      else
        let item ← node fuel false false
        return item :: (← flowItems fuel false)

/--
A mapping of one entry between brackets.  A key that is left out takes the token behind it along.
-/
def flowPair : (fuel : Nat) → Reading (Node × Node)
  | 0 => throw .malformed
  | fuel + 1 => do
    let key ←
      if ← isAhead [.value, .comma, .closeBracket] then
        skip
        pure absent
      else node fuel false false
    let value ←
      if ← accept .value then nodeBefore fuel [.comma, .closeBracket] false false
      else pure absent
    return (key, value)

/-- The entries between braces; all but the first have a comma in front of them. -/
def flowEntries : (fuel : Nat) → (first : Bool) → Reading (List (Node × Node))
  | 0, _ => throw .malformed
  | fuel + 1, first => do
    if ← accept .closeBrace then return []
    else
      unless first do expect .comma
      if ← accept .key then
        let key ← nodeBefore fuel [.value, .comma, .closeBrace] false false
        let value ←
          if ← accept .value then nodeBefore fuel [.comma, .closeBrace] false false
          else pure absent
        return (key, value) :: (← flowEntries fuel false)
      else if ← accept .closeBrace then return []
      else
        let key ← node fuel false false
        return (key, absent) :: (← flowEntries fuel false)

end

/-! ## Documents -/

/-- The directives ahead; neither a version nor a handle may be given twice. -/
def directives : (fuel : Nat) → (versioned : Bool) → Reading Unit
  | 0, _ => throw .malformed
  | fuel + 1, versioned => do
    match ← peek with
    | some (.directive (.version major minor)) =>
      if versioned || major ≠ 1 || (minor ≠ 1 && minor ≠ 2) then throw .malformed
      else
        skip
        directives fuel true
    | some (.directive (.handle handle start)) =>
      if (← get).handles.any fun entry => entry.1 = handle then throw .malformed
      else
        skip
        modify fun r => { r with handles := r.handles ++ [(handle, start)] }
        directives fuel versioned
    | _ => return ()

/-- The handles that stand for something without a directive. -/
def standardHandles : List (Text × TagText) :=
  [(['!'], .ofText ['!']), (['!', '!'], .ofText "tag:yaml.org,2002:")]

/-- Gives every standard handle its meaning, unless it has another one. -/
def addStandardHandles : Reading Unit :=
  modify fun r => { r with handles := r.handles ++ standardHandles }

/-- The root of the first document, which may go without a mark for its start. -/
def root (fuel : Nat) : Reading Node := do
  match ← peek with
  | some (.directive _) | some .documentStart =>
    directives fuel false
    addStandardHandles
    expect .documentStart
    match ← peek with
    | none | some (.directive _) | some .documentStart | some .documentEnd => return absent
    | _ => node fuel true false
  | _ =>
    addStandardHandles
    node fuel true false

def documentEnds : (fuel : Nat) → Reading Unit
  | 0 => return ()
  | fuel + 1 => do if ← accept .documentEnd then documentEnds fuel

/-- The document, if there is just one. -/
def document : Reading (Option Document) := do
  let fuel := 4 * (← get).ahead.length + 4
  if (← peek).isNone then return none
  else
    let root ← root fuel
    documentEnds fuel
    match ← peek with
    | none => return some ⟨root, (← get).anchored⟩
    | some (.directive _) | some .documentStart => throw .manyDocuments
    | some _ => throw .malformed

end Reading

def Document.ofText? (t : Text) : Except Fault (Option Document) :=
  match Token.ofText? t with
  | some tokens => (Reading.document.run { ahead := tokens }).map Prod.fst
  | none => .error .malformed

end ShellGuard.Yaml
