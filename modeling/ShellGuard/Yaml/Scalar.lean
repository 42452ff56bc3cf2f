import ShellGuard.Unicode.CharSet
import ShellGuard.Yaml.Place

/-!
# Scalars — the texts of a document in their five styles

A scalar goes over several lines in most styles.  Its lines are folded: a single line break reads as
a space, and of several breaks the first is dropped.

## Main definitions

* `Style` — how a scalar is written.
* `Gap`, `Gap.text` — blanks and breaks between two words, and what they read as.
* `readPlain?`, `readQuoted?`, `readBlock?` — a scalar at a place.
-/

namespace ShellGuard.Yaml

inductive Style
  | plain
  | quoted
  | literal
  | folded
  deriving DecidableEq, Repr

/-! ## Gaps -/

/-- Blanks and line breaks between two words. -/
structure Gap where
  /-- The blanks in front of the first break. -/
  blanks : Text := []
  /-- Is there a line break? -/
  broken : Bool := false
  /-- The first line break, unless it is an escaped one. -/
  leading : Text := []
  /-- The other line breaks. -/
  trailing : Text := []
  deriving DecidableEq, Repr

namespace Gap

/-- What a first line break and the others read as. -/
def fold (leading trailing : Text) : Text :=
  if leading.head? = some '\n' then
    if trailing.isEmpty then [' '] else trailing
  else
    leading ++ trailing

def text (g : Gap) : Text :=
  if g.broken then fold g.leading g.trailing else g.blanks

/--
The gap ahead, added to what is there of it.  No tab may indent a line by less than `indent`.
`fuel` bounds the characters by the text's length.
-/
def read? (indent : Nat) : (fuel : Nat) → Gap → Place → Option (Gap × Place)
  | 0, _, _ => none
  | fuel + 1, g, p =>
    match p.lineBreak? with
    | some (b, p) =>
      if g.broken then read? indent fuel { g with trailing := g.trailing ++ b } p
      else read? indent fuel { g with broken := true, leading := b } p
    | none =>
      match p.rest with
      | c :: _ =>
        if ¬ isSpacing c then some (g, p)
        else if g.broken then
          -- Blanks at the start of a continued line are dropped.
          if c = '\t' ∧ p.column < indent then none else read? indent fuel g (p.skip 1)
        else
          let (blanks, p) := p.readWhile isSpacing
          read? indent fuel { g with blanks := g.blanks ++ blanks } p
      | [] => some (g, p)

end Gap

/-- The pieces of a text, the newest first, as one text. -/
def assemble (pieces : List Text) : Text :=
  pieces.reverse.flatten

/-! ## Plain scalars -/

def flowMarks : Text := [',', '[', ']', '\x7b', '\x7d']

/-- The word of a plain scalar at the start of a text; `none` for a colon that may not be there. -/
def plainWord? (inFlow : Bool) : Text → Option Text
  | [] => some []
  | c :: t =>
    if isGap c then some []
    else if inFlow && c = ':' && startsWithAny ('?' :: flowMarks) t then none
    -- A colon before a gap ends a key; any other is a part of the word.
    else if c = ':' && endsWord t then some []
    else if inFlow && flowMarks.contains c then some []
    else (plainWord? inFlow t).map (c :: ·)

/--
The words of a plain scalar behind the pieces and the gap that are read already, whether it ended
with a line break, and the place behind it.  `fuel` bounds the words by the text's length.
-/
def readPlain? (inFlow : Bool) (indent : Nat) :
    (fuel : Nat) → (pieces : List Text) → Gap → Place → Option (Text × Bool × Place)
  | 0, _, _, _ => none
  | fuel + 1, pieces, gap, p =>
    if p.atDocumentMark || startsWithAny ['#'] p.rest then
      some (assemble pieces, gap.broken, p)
    else
      match plainWord? inFlow p.rest with
      | none => none
      | some [] => some (assemble pieces, gap.broken, p)
      | some word =>
        let pieces := word :: gap.text :: pieces
        let p := p.skip word.length
        if p.rest.head?.any isGap then
          match Gap.read? indent (p.rest.length + 1) {} p with
          | none => none
          | some (gap, p) =>
            if !inFlow && p.column < indent then some (assemble pieces, gap.broken, p)
            else readPlain? inFlow indent fuel pieces gap p
        else
          some (assemble pieces, false, p)

/-! ## Quoted scalars -/

def simpleEscape? : Char → Option Char
  | '0' => some '\x00'
  | 'a' => some '\x07'
  | 'b' => some '\x08'
  | 't' => some '\t'
  | '\t' => some '\t'
  | 'n' => some '\n'
  | 'v' => some '\x0b'
  | 'f' => some '\x0c'
  | 'r' => some '\r'
  | 'e' => some '\x1b'
  | ' ' => some ' '
  | '"' => some '"'
  | '/' => some '/'
  | '\\' => some '\\'
  | 'N' => some '\x85'
  | '_' => some '\xa0'
  | 'L' => some '\u2028'
  | 'P' => some '\u2029'
  | _ => none

def escapeWidth? : Char → Option Nat
  | 'x' => some 2
  | 'u' => some 4
  | 'U' => some 8
  | _ => none

def hexNumber? : (count : Nat) → (value : Nat) → Text → Option Nat
  | 0, value, _ => some value
  | count + 1, value, c :: t => do hexNumber? count (value * 16 + (← CharSet.hexDigit? c)) t
  | _ + 1, _, [] => none

def charOfCode? (code : Nat) : Option Char :=
  if h : code.isValidChar then some (Char.ofNatAux code h) else none

/-- The character of an escape whose backslash is behind, and the place behind the escape. -/
def readEscape? (p : Place) : Option (Char × Place) := do
  let c ← p.rest.head?
  match simpleEscape? c with
  | some e => return (e, p.skip 1)
  | none =>
    let width ← escapeWidth? c
    let code ← hexNumber? width 0 (p.rest.drop 1)
    return (← charOfCode? code, p.skip (1 + width))

/--
The word of a quoted scalar ahead, whether an escaped line break ended it, and the place behind it.
`fuel` bounds the characters by the text's length.
-/
def quotedWord? (quote : Char) : (fuel : Nat) → Place → Option (Text × Bool × Place)
  | 0, _ => none
  | fuel + 1, p =>
    let next (c : Char) (p : Place) : Option (Text × Bool × Place) :=
      (quotedWord? quote fuel p).map fun (word, broken, p) => (c :: word, broken, p)
    match p.rest with
    | [] => some ([], false, p)
    | c :: t =>
      if isGap c then some ([], false, p)
      else if c = quote then
        -- Between single quotes, a quote is written twice.
        if quote = '\'' ∧ t.head? = some '\'' then next '\'' (p.skip 2) else some ([], false, p)
      else if quote = '"' ∧ c = '\\' then
        match (p.skip 1).lineBreak? with
        | some (_, p) => some ([], true, p)
        | none => do
          let (e, p) ← readEscape? (p.skip 1)
          next e p
      else next c (p.skip 1)

/--
The words of a quoted scalar behind its pieces so far, up to the closing quote.  `fuel` bounds the
words by the text's length.
-/
def readQuoted? (quote : Char) :
    (fuel : Nat) → (pieces : List Text) → Place → Option (Text × Place)
  | 0, _, _ => none
  | fuel + 1, pieces, p =>
    if p.atDocumentMark || p.rest.isEmpty then none
    else do
      let (word, broken, p) ← quotedWord? quote (p.rest.length + 1) p
      let pieces := word :: pieces
      if startsWithAny [quote] p.rest then
        return (assemble pieces, p.skip 1)
      else
        let (gap, p) ← Gap.read? 0 (p.rest.length + 1) { broken } p
        readQuoted? quote fuel (gap.text :: pieces) p

/-! ## Blocks -/

/-- What happens to the line breaks at the end of a block. -/
inductive Chomping
  | strip
  | clip
  | keep
  deriving DecidableEq, Repr

def Chomping.ofMark? : Text → Option Chomping
  | '+' :: _ => some .keep
  | '-' :: _ => some .strip
  | _ => none

/-- The indentation that a digit asks for; zero is none. -/
def indentMark? : Text → Option Nat
  | c :: _ => if c.isDigit then some (c.toNat - '0'.toNat) else none
  | [] => none

/--
The marks of a block's first line, which stand in any order: the chomping, and the indentation if it
is given.
-/
def readMarks? (p : Place) : Option (Chomping × Option Nat × Place) :=
  let marks :=
    match Chomping.ofMark? p.rest with
    | some chomping =>
      match indentMark? (p.rest.drop 1) with
      | some indent => (chomping, some indent, p.skip 2)
      | none => (chomping, none, p.skip 1)
    | none =>
      match indentMark? p.rest with
      | some indent =>
        match Chomping.ofMark? (p.rest.drop 1) with
        | some chomping => (chomping, some indent, p.skip 2)
        | none => (.clip, some indent, p.skip 1)
      | none => (.clip, none, p)
  if marks.2.1 = some 0 then none else some marks

/--
The line breaks of the empty lines ahead, the deepest indentation among them, and the place at the
text of the next line.  Without `indent?` the indentation is still to be found.
-/
def blockBreaks? (indent? : Option Nat) :
    (fuel deepest : Nat) → Place → Option (Text × Nat × Place)
  | 0, _, _ => none
  | fuel + 1, deepest, p =>
    let spaces := (p.rest.takeWhile (· = ' ')).length
    let p := p.skip (indent?.elim spaces fun indent => min spaces (indent - p.column))
    let deepest := max deepest p.column
    if indent?.all (p.column < ·) && startsWithAny ['\t'] p.rest then none
    else
      match p.lineBreak? with
      | some (b, p) => do
        let (breaks, deepest, p) ← blockBreaks? indent? fuel deepest p
        return (b ++ breaks, deepest, p)
      | none => some ([], deepest, p)

structure BlockLines where
  /-- The text, its newest piece first. -/
  pieces : List Text
  /-- The break behind the last line. -/
  leading : Text
  /-- The breaks of the empty lines after it. -/
  trailing : Text
  /-- Does the last line start with a blank? -/
  indented : Bool
  place : Place
  deriving DecidableEq, Repr

/-- The lines of a block that are indented by `indent`.  `fuel` bounds them by the text's length. -/
def readLines? (style : Style) (indent : Nat) : (fuel : Nat) → BlockLines → Option BlockLines
  | 0, _ => none
  | fuel + 1, b =>
    let p := b.place
    if p.column ≠ indent ∨ p.rest.isEmpty then some b
    else do
      let indented := p.rest.head?.any isSpacing
      -- Lines that start with a blank are not folded, nor are the ones next to them.
      let folds := style = .folded && b.leading.head? = some '\n' && !b.indented && !indented
      let between :=
        if folds then Gap.fold b.leading b.trailing else b.leading ++ b.trailing
      let (line, p) := p.readWhile (!isBreak ·)
      let (leading, p) := p.lineBreak?.getD ([], p)
      let (trailing, _, p) ← blockBreaks? (some indent) (p.rest.length + 1) 0 p
      readLines? style indent fuel
        { pieces := line :: between :: b.pieces, leading, trailing, indented, place := p }

/--
A block whose mark is behind.  `margin` is one more than the indentation of the block around it, and
zero outside of all blocks.
-/
def readBlock? (style : Style) (margin : Nat) (p : Place) : Option (Text × Place) := do
  let (chomping, indentMark?, p) ← readMarks? p
  let p := (p.skipWhile isSpacing).skipComment
  let p ← if p.rest.isEmpty then some p else p.lineBreak?.map Prod.snd
  let indent? := indentMark?.map ((margin - 1) + ·)
  let (trailing, deepest, p) ← blockBreaks? indent? (p.rest.length + 1) 0 p
  -- Without a digit, the first line that is not empty sets the indentation.
  let indent := indent?.getD (max deepest (max margin 1))
  let b ← readLines? style indent (p.rest.length + 1)
    { pieces := [], leading := [], trailing, indented := false, place := p }
  let ending :=
    match chomping with
    | .strip => []
    | .clip => b.leading
    | .keep => b.leading ++ b.trailing
  return (assemble (ending :: b.pieces), b.place)

end ShellGuard.Yaml
