import ShellGuard.Yaml.Tag

/-!
# Tokens — the marks, words and blocks of a document

Indentation becomes tokens: a block starts where a line is indented further than the block around
it, and ends where one is indented less.  A simple key is a node with a colon behind it on the same
line.  Where it starts is noted, and its tokens are put there once the colon is seen.

## Main definitions

* `Token` — the tokens of a document.
* `Lexer` — a place together with the blocks, brackets and possible keys around it.
* `Token.ofText?` — all tokens of a text.
-/

namespace ShellGuard.Yaml

inductive Token
  | directive (d : Directive)
  | documentStart
  | documentEnd
  | blockSequence
  | blockMapping
  | blockEnd
  | openBracket
  | closeBracket
  | openBrace
  | closeBrace
  | comma
  /-- A hyphen in front of an item. -/
  | item
  /-- What marks the start of a key, written or not. -/
  | key
  /-- A colon in front of a value. -/
  | value
  | alias (name : Text)
  | anchor (name : Text)
  | tag (tag : WrittenTag)
  | scalar (text : Text) (style : Style)
  deriving DecidableEq, Repr

/-- A node that becomes a key if a colon follows. -/
structure SimpleKey where
  /-- Must a colon follow, because the node stands where only a key can? -/
  required : Bool
  /-- The number of tokens in front of it. -/
  tokensBefore : Nat
  /-- Where it starts. -/
  place : Place
  deriving DecidableEq, Repr

/-- A place together with the blocks, brackets and possible keys around it. -/
structure Lexer where
  place : Place
  /-- The tokens so far, the newest first. -/
  tokens : List Token := []
  /-- One more than the column of the block around the place, and zero outside of all blocks. -/
  margin : Nat := 0
  /-- The margins of the blocks around that one, the innermost first. -/
  margins : List Nat := []
  /-- Can a key start here? -/
  keyAllowed : Bool := true
  /-- The possible key between the innermost brackets. -/
  key? : Option SimpleKey := none
  /-- The possible keys in front of each of the brackets around the place, the innermost first. -/
  outerKeys : List (Option SimpleKey) := []
  deriving DecidableEq, Repr

namespace Lexer

/-- Is the place between brackets? -/
def inFlow (s : Lexer) : Bool :=
  !s.outerKeys.isEmpty

def emit (s : Lexer) (t : Token) : Lexer :=
  { s with tokens := t :: s.tokens }

/-- The lexer with a token that has `count` tokens in front of it. -/
def insertAfter (s : Lexer) (count : Nat) (t : Token) : Lexer :=
  let newer := s.tokens.length - count
  { s with tokens := s.tokens.take newer ++ t :: s.tokens.drop newer }

def skip (s : Lexer) (n : Nat) : Lexer :=
  { s with place := s.place.skip n }

/-! ## Possible keys -/

/-- The lexer without a possible key, unless a colon had to follow it. -/
def dropKey? (s : Lexer) : Option Lexer :=
  if s.key?.any SimpleKey.required then none else some { s with key? := none }

/-- The key, unless it is too far behind to become one; `none` where it had to. -/
def freshKey? (p : Place) : Option SimpleKey → Option (Option SimpleKey)
  | none => some none
  | some k =>
    if k.place.line < p.line ∨ k.place.index + 1024 < p.index then
      if k.required then none else some none
    else
      some (some k)

def dropStaleKeys? (s : Lexer) : Option Lexer := do
  let key? ← freshKey? s.place s.key?
  let outerKeys ← s.outerKeys.mapM (freshKey? s.place)
  return { s with key?, outerKeys }

/-- The lexer with a possible key here, if one can start here. -/
def noteKey? (s : Lexer) : Option Lexer :=
  if s.keyAllowed then do
    -- At the indentation of its block, nothing but a key can stand.
    let required := !s.inFlow && s.margin = s.place.column + 1
    let s ← s.dropKey?
    return { s with key? := some ⟨required, s.tokens.length, s.place⟩ }
  else
    some s

def allowKey (s : Lexer) (keyAllowed : Bool) : Lexer :=
  { s with keyAllowed }

/-! ## Blocks -/

/-- The lexer inside a block at `column`, which starts behind `count` tokens if it is not open. -/
def openBlock (s : Lexer) (column count : Nat) (t : Token) : Lexer :=
  if s.inFlow || column < s.margin then s
  else
    { s.insertAfter count t with margin := column + 1, margins := s.margin :: s.margins }

/-- The lexer outside of all blocks whose margin is above `margin`. -/
def closeBlocks (s : Lexer) (margin : Nat) : Lexer :=
  if s.inFlow then s
  else close s.margin s.margins s.tokens
where
  /-- The blocks of `margins` closed, while they are above `margin`. -/
  close : Nat → List Nat → List Token → Lexer
    | m, [], tokens => { s with margin := m, margins := [], tokens }
    | m, n :: margins, tokens =>
      if margin < m then close n margins (.blockEnd :: tokens)
      else { s with margin := m, margins := n :: margins, tokens }

/-- The lexer inside a block at the place, which may be opened only where a key can start. -/
def openBlockHere? (s : Lexer) (t : Token) : Option Lexer :=
  if s.inFlow then some s
  else if s.keyAllowed then some (s.openBlock s.place.column s.tokens.length t)
  else none

/-! ## Steps -/

/-- The lexer at the next token.  `fuel` bounds the lines by the text's length. -/
def settle : (fuel : Nat) → Lexer → Lexer
  | 0, s => s
  | fuel + 1, s =>
    let p := s.place
    -- A mark of the byte order may stand at the start of every line.
    let p := if p.column = 0 ∧ startsWithAny ['\ufeff'] p.rest then p.skip 1 else p
    -- A tab is no indentation, so none may stand where a key of a block could start.
    let p := p.skipWhile fun c => c = ' ' || (c = '\t' && (s.inFlow || !s.keyAllowed))
    let p := p.skipComment
    match p.lineBreak? with
    | some (_, p) => settle fuel { s with place := p, keyAllowed := s.keyAllowed || !s.inFlow }
    | none => { s with place := p }

def leaveDocument? (s : Lexer) : Option Lexer :=
  return (← (s.closeBlocks 0).dropKey?).allowKey false

def openFlow? (s : Lexer) (t : Token) : Option Lexer := do
  let s ← s.noteKey?
  let inside := { s with key? := none, outerKeys := s.key? :: s.outerKeys, keyAllowed := true }
  return (inside.emit t).skip 1

def closeFlow? (s : Lexer) (t : Token) : Option Lexer := do
  let s ← s.dropKey?
  let s :=
    match s.outerKeys with
    | [] => s
    | key? :: outerKeys => { s with key?, outerKeys }
  return ((s.allowKey false).emit t).skip 1

/-- The lexer behind a hyphen. -/
def readItem? (s : Lexer) : Option Lexer := do
  let s ← s.openBlockHere? .blockSequence
  let s ← s.dropKey?
  return ((s.allowKey true).emit .item).skip 1

/-- The lexer behind a question mark. -/
def readKey? (s : Lexer) : Option Lexer := do
  let s ← s.openBlockHere? .blockMapping
  let s ← s.dropKey?
  return ((s.allowKey (!s.inFlow)).emit .key).skip 1

/-- The lexer behind a colon. -/
def readValue? (s : Lexer) : Option Lexer := do
  let s ←
    match s.key? with
    | some k =>
      -- The block's mark goes in front of the key's, which is at the same place by then.
      let s := s.insertAfter k.tokensBefore .key
      let s := s.openBlock k.place.column k.tokensBefore .blockMapping
      some { s with key? := none, keyAllowed := false }
    | none => (s.openBlockHere? .blockMapping).map fun s => s.allowKey (!s.inFlow)
  return (s.emit .value).skip 1

def readName? (s : Lexer) (t : Text → Token) : Option Lexer := do
  let s ← s.noteKey?
  let (name, p) := (s.place.skip 1).readWhile isWord
  -- A name ends at a gap, or at a mark that cannot continue it.
  if name.isEmpty then none
  else if endsWord p.rest || startsWithAny "?:,]\x7d%@\x60".toList p.rest then
    return { s.emit (t name) with place := p, keyAllowed := false }
  else none

def readTag? (s : Lexer) : Option Lexer := do
  let s ← s.noteKey?
  let (tag, p) ← Yaml.readTag? s.inFlow s.place
  return { s.emit (.tag tag) with place := p, keyAllowed := false }

def readBlock? (s : Lexer) (style : Style) : Option Lexer := do
  let s ← s.dropKey?
  let (text, p) ← Yaml.readBlock? style s.margin (s.place.skip 1)
  return { s.emit (.scalar text style) with place := p, keyAllowed := true }

def readQuoted? (s : Lexer) (quote : Char) : Option Lexer := do
  let s ← s.noteKey?
  let (text, p) ← Yaml.readQuoted? quote (s.place.rest.length + 1) [] (s.place.skip 1)
  return { s.emit (.scalar text .quoted) with place := p, keyAllowed := false }

def readPlain? (s : Lexer) : Option Lexer := do
  let s ← s.noteKey?
  let (text, broken, p) ←
    Yaml.readPlain? s.inFlow s.margin (s.place.rest.length + 1) [] {} s.place
  return { s.emit (.scalar text .plain) with place := p, keyAllowed := broken }

def indicators : Text :=
  "-?:,[]\x7b\x7d#&*!|>'\"%@\x60".toList

def startsPlain (inFlow : Bool) (c : Char) (t : Text) : Bool :=
  !(isGap c || indicators.contains c) || (c = '-' && !t.head?.any isSpacing) ||
    (!inFlow && (c = '?' || c = ':') && !endsWord t)

/-- The lexer behind the next token, which starts with `c` and goes on in `t`. -/
def next? (s : Lexer) (c : Char) (t : Text) : Option Lexer :=
  if c = '%' ∧ s.place.column = 0 then do
    let s ← s.leaveDocument?
    let (d, p) ← readDirective? (s.place.skip 1)
    return { s.emit (.directive d) with place := p }
  else if s.place.atDocumentMark then do
    let s ← s.leaveDocument?
    return (s.emit (if c = '-' then .documentStart else .documentEnd)).skip 3
  else
    match c with
    | '[' => s.openFlow? .openBracket
    | '\x7b' => s.openFlow? .openBrace
    | ']' => s.closeFlow? .closeBracket
    | '\x7d' => s.closeFlow? .closeBrace
    | ',' => return (((← s.dropKey?).allowKey true).emit .comma).skip 1
    | '*' => s.readName? .alias
    | '&' => s.readName? .anchor
    | '!' => s.readTag?
    | '\'' => s.readQuoted? '\''
    | '"' => s.readQuoted? '"'
    | c =>
      if c = '-' ∧ endsWord t then s.readItem?
      else if c = '?' ∧ (s.inFlow ∨ endsWord t) then s.readKey?
      else if c = ':' ∧ (s.inFlow ∨ endsWord t) then s.readValue?
      else if c = '|' ∧ ¬ s.inFlow then s.readBlock? .literal
      else if c = '>' ∧ ¬ s.inFlow then s.readBlock? .folded
      else if startsPlain s.inFlow c t then s.readPlain?
      else none

/-- The lexer at the end of the text.  `fuel` bounds the tokens by the text's length. -/
def run? : (fuel : Nat) → Lexer → Option Lexer
  | 0, _ => none
  | fuel + 1, s => do
    let s ← (s.settle (s.place.rest.length + 1)).dropStaleKeys?
    -- Every block that is indented further than the next token is over.
    let s := s.closeBlocks (s.place.column + 1)
    match s.place.rest with
    | [] => s.leaveDocument?
    | c :: t => run? fuel (← s.next? c t)

end Lexer

def Token.ofText? (t : Text) : Option (List Token) :=
  let t := if startsWithAny ['\ufeff'] t then t.drop 1 else t
  if t.all isReadable then
    (Lexer.run? (t.length + 1) { place := { rest := t } }).map fun s => s.tokens.reverse
  else
    none

end ShellGuard.Yaml
