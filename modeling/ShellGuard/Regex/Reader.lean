import ShellGuard.Regex.Syntax
import ShellGuard.Unicode.Named

/-!
# Reading patterns — from written text to a `Node`

The reader goes through the text once, from left to right.  Where blanks are ignored, they and
comments may stand between any two tokens.  A reader step returns `none` where the text is no
pattern; otherwise what was read and the cursor behind it.

## Main definitions

* `Cursor` — the text ahead, whether blanks are ignored, and the group names in use.
* `readClass?` — a bracketed class; `readNode?` — a pattern up to the end of its group.
* `Node.ofText?` — a whole pattern.
-/

namespace ShellGuard.Regex

structure Cursor where
  /-- The text that is still to be read. -/
  rest : Text
  /-- Are blanks and comments passed over? -/
  ignoreBlanks : Bool
  /-- The names that groups have so far. -/
  names : List Text
  deriving Repr

namespace Cursor

/-- The text behind leading blanks and comments; a comment ends with its line. -/
def passBlanks : (inComment : Bool) → Text → Text
  | _, [] => []
  | true, c :: t => passBlanks (c ≠ '\n') t
  | false, c :: t =>
    if isBlank c then passBlanks false t
    else if c = '#' then passBlanks true t
    else c :: t

def settle (s : Cursor) : Cursor :=
  if s.ignoreBlanks then { s with rest := passBlanks false s.rest } else s

def goto (s : Cursor) (rest : Text) : Cursor :=
  { s with rest := rest }

def settleAt (s : Cursor) (rest : Text) : Cursor :=
  (s.goto rest).settle

/--
The character after the one ahead.  Where blanks are ignored they are passed over, as is one
number sign; a text of blanks only shows its first blank.
-/
def peek? (s : Cursor) : Option Char :=
  let after := s.rest.drop 1
  if s.ignoreBlanks then
    let shown :=
      match after.dropWhile isBlank with
      | '#' :: t => t.dropWhile isBlank
      | t => t
    shown.head? <|> after.head?
  else
    after.head?

end Cursor

/-! ## Escapes -/

/-- The characters with a meaning of their own somewhere in a pattern. -/
def isMeta (c : Char) : Bool :=
  "\\.+*?()|[]\x7b\x7d^$#&-~".toList.contains c

/-- The characters that a backslash makes literal: ASCII other than letters, digits and angles. -/
def isEscapable (c : Char) : Bool :=
  isMeta c || (c.toNat < 0x80 && !c.isAlphanum && c ≠ '<' && c ≠ '>')

/-- What one item of a pattern can be before it is known whether it stands in brackets. -/
inductive Primitive
  | literal (l : Literal)
  | assertion (a : Assertion)
  | named (negated : Bool) (name : NamedClass)
  | shorthand (negated : Bool) (name : Shorthand)
  | dot
  deriving DecidableEq, Repr

def charOfCode? (code : Nat) : Option Char :=
  if h : code.isValidChar then some (Char.ofNatAux code h) else none

def readHexDigits? (s : Cursor) : (count value : Nat) → Option (Nat × Cursor)
  | 0, value => some (value, s)
  | count + 1, value =>
    match s.rest with
    | c :: t => do
      let d ← CharSet.hexDigit? c
      readHexDigits? (s.settleAt t) count (value * 16 + d)
    | [] => none

/--
Hexadecimal digits up to a closing brace, as a number.  `fuel` bounds the digits by the text's
length, and `started` says whether there was one.
-/
def readHexBrace? : (fuel : Nat) → Cursor → (started : Bool) → (value : Nat) →
    Option (Nat × Cursor)
  | 0, _, _, _ => none
  | fuel + 1, s, started, value =>
    match s.rest with
    | '\x7d' :: t => if started then some (value, s.settleAt t) else none
    | c :: t => do
      let d ← CharSet.hexDigit? c
      readHexBrace? fuel (s.settleAt t) true (value * 16 + d)
    | [] => none

/-- A character written by its code: `digits` digits, or any number of them in braces. -/
def readHex? (s : Cursor) (digits : Nat) : Option (Primitive × Cursor) :=
  match s.rest with
  | '\x7b' :: t => do
    let (code, s) ← readHexBrace? (t.length + 1) (s.settleAt t) false 0
    let c ← charOfCode? code
    return (.literal ⟨c, false⟩, s)
  | _ => do
    let (code, s) ← readHexDigits? s digits 0
    let c ← charOfCode? code
    return (.literal ⟨c, digits = 2⟩, s)

def splitAtMark? (mark : Text) : Text → Option (Text × Text)
  | [] => none
  | c :: t =>
    match Text.dropLead? mark (c :: t) with
    | some rest => some ([], rest)
    | none => (splitAtMark? mark t).map fun (before, rest) => (c :: before, rest)

def NamedClass.ofText (t : Text) : NamedClass :=
  match splitAtMark? ['!', '='] t with
  | some (property, value) => .valued property value
  | none =>
    match splitAtMark? [':'] t with
    | some (property, value) => .valued property value
    | none =>
      match splitAtMark? ['='] t with
      | some (property, value) => .valued property value
      | none => .plain t

/-- The text up to a closing brace; blanks that are ignored are left out. -/
def readBraced? : (fuel : Nat) → Cursor → Option (Text × Cursor)
  | 0, _ => none
  | fuel + 1, s =>
    match s.rest with
    | '\x7d' :: t => some ([], s.goto t)
    | c :: t => (readBraced? fuel (s.settleAt t)).map fun (read, s) => (c :: read, s)
    | [] => none

/-- The name of a class behind its escape letter: one character, or a text in braces. -/
def readNamed? (negated : Bool) (s : Cursor) : Option (Primitive × Cursor) :=
  match s.rest with
  | [] => none
  | '\x7b' :: t => do
    let (name, s) ← readBraced? (t.length + 1) (s.settleAt t)
    return (.named negated (.ofText name), s)
  | c :: t => if c = '\\' then none else some (.named negated (.plain [c]), s.settleAt t)

def readBoundaryName : (fuel : Nat) → Cursor → Text × Cursor
  | 0, s => ([], s)
  | fuel + 1, s =>
    match s.rest with
    | c :: t =>
      if c.isAlpha || c = '-' then
        let (name, s) := readBoundaryName fuel (s.settleAt t)
        (c :: name, s)
      else
        ([], s)
    | [] => ([], s)

/--
A word boundary, whose kind may follow in braces.  A brace that starts no name is left for a
counted repetition.
-/
def readWordBoundary? (s : Cursor) : Option (Primitive × Cursor) :=
  match s.rest with
  | '\x7b' :: t =>
    let inner := s.settleAt t
    match inner.rest with
    | [] => none
    | c :: _ =>
      if c.isAlpha || c = '-' then
        let (name, behind) := readBoundaryName (inner.rest.length + 1) inner
        match behind.rest with
        | '\x7d' :: t =>
          if name = ("start" : Text) then some (.assertion .wordStart, behind.goto t)
          else if name = ("end" : Text) then some (.assertion .wordEnd, behind.goto t)
          else if name = ("start-half" : Text) then some (.assertion .wordStartHalf, behind.goto t)
          else if name = ("end-half" : Text) then some (.assertion .wordEndHalf, behind.goto t)
          else none
        | _ => none
      else
        some (.assertion .wordBoundary, s)
  | _ => some (.assertion .wordBoundary, s)

def readEscape? (s : Cursor) : Option (Primitive × Cursor) :=
  match s.rest with
  | [] => none
  | c :: t =>
    let next := s.goto t
    match c with
    | 'x' => readHex? next.settle 2
    | 'u' => readHex? next.settle 4
    | 'U' => readHex? next.settle 8
    | 'p' => readNamed? false next.settle
    | 'P' => readNamed? true next.settle
    | 'd' => some (.shorthand false .digit, next)
    | 'D' => some (.shorthand true .digit, next)
    | 's' => some (.shorthand false .blank, next)
    | 'S' => some (.shorthand true .blank, next)
    | 'w' => some (.shorthand false .word, next)
    | 'W' => some (.shorthand true .word, next)
    | 'a' => some (.literal ⟨'\x07', false⟩, next)
    | 'f' => some (.literal ⟨'\x0c', false⟩, next)
    | 't' => some (.literal ⟨'\t', false⟩, next)
    | 'n' => some (.literal ⟨'\n', false⟩, next)
    | 'r' => some (.literal ⟨'\r', false⟩, next)
    | 'v' => some (.literal ⟨'\x0b', false⟩, next)
    | 'A' => some (.assertion .textStart, next)
    | 'z' => some (.assertion .textEnd, next)
    | 'b' => readWordBoundary? next
    | 'B' => some (.assertion .notWordBoundary, next)
    | '<' => some (.assertion .wordStart, next)
    | '>' => some (.assertion .wordEnd, next)
    | _ => if isEscapable c then some (.literal ⟨c, false⟩, next) else none

/-! ## Bracketed classes -/

def PosixClass.ofName? (name : Text) : Option PosixClass :=
  match String.ofList name with
  | "alnum" => some .alnum
  | "alpha" => some .alpha
  | "ascii" => some .ascii
  | "blank" => some .blank
  | "cntrl" => some .cntrl
  | "digit" => some .digit
  | "graph" => some .graph
  | "lower" => some .lower
  | "print" => some .print
  | "punct" => some .punct
  | "space" => some .space
  | "upper" => some .upper
  | "word" => some .word
  | "xdigit" => some .xdigit
  | _ => none

/-- A named class such as `[:alpha:]`, if the text starts with one. -/
def readPosix? (t : Text) : Option (ClassSet × Text) := do
  let inner ← Text.dropLead? ['[', ':'] t
  let negated := inner.head? = some '^'
  let inner := if negated then inner.drop 1 else inner
  let name := inner.takeWhile (· ≠ ':')
  let behind ← Text.dropLead? [':', ']'] (inner.drop name.length)
  let posix ← PosixClass.ofName? name
  return (.posix negated posix, behind)

def readClassItem? (s : Cursor) : Option (Primitive × Cursor) :=
  match s.rest with
  | [] => none
  | '\\' :: t => readEscape? (s.goto t)
  | c :: t => some (.literal ⟨c, false⟩, s.goto t)

/-- The set that an item stands for; conditions on a position stand for none. -/
def Primitive.toClassSet? : Primitive → Option ClassSet
  | .literal l => some (.literal l)
  | .named negated name => some (.named negated name)
  | .shorthand negated name => some (.shorthand negated name)
  | .assertion _ => none
  | .dot => none

/--
An item or a range.  A hyphen before the closing bracket, or before another hyphen, makes no range.
-/
def readClassRange? (s : Cursor) : Option (ClassSet × Cursor) := do
  let (first, s) ← readClassItem? s
  let s := s.settle
  match s.rest with
  | [] => none
  | '-' :: t =>
    -- The hyphen is an item of its own, or the start of a difference.
    if s.peek? = some ']' ∨ s.peek? = some '-' then
      return (← first.toClassSet?, s)
    let s := s.settleAt t
    let (last, s) ← readClassItem? s
    match first, last with
    | .literal lo, .literal hi =>
      if lo.char ≤ hi.char then return (.range lo hi, s) else none
    | _, _ => none
  | _ => return (← first.toClassSet?, s)

def ClassSet.add (items item : ClassSet) : ClassSet :=
  if items = .empty then item else .union items item

/-- Applies the operation that is waiting for its right side. -/
def finishOperation (waiting : Option (SetOperation × ClassSet)) (right : ClassSet) : ClassSet :=
  match waiting with
  | some (operation, left) => .combine operation left right
  | none => right

/-- Hyphens at the start of a class, which are literal. -/
def readHyphens : (fuel : Nat) → ClassSet → Cursor → ClassSet × Cursor
  | 0, items, s => (items, s)
  | fuel + 1, items, s =>
    match s.rest with
    | '-' :: t => readHyphens fuel (items.add (.literal ⟨'-', false⟩)) (s.settleAt t)
    | _ => (items, s)

/-- The start of a class behind its bracket: negation, literal hyphens, a literal bracket. -/
def readClassStart (s : Cursor) : Bool × ClassSet × Cursor :=
  let s := s.settle
  let (negated, s) :=
    match s.rest with
    | '^' :: t => (true, s.settleAt t)
    | _ => (false, s)
  let (items, s) := readHyphens (s.rest.length + 1) .empty s
  -- A class is never empty, so a closing bracket at its start is a member.
  match items, s.rest with
  | .empty, ']' :: t => (negated, .literal ⟨']', false⟩, s.settleAt t)
  | _, _ => (negated, items, s)

/--
The rest of a bracketed class, to its closing bracket: `waiting` is an operation with its left
side, and `items` what stands behind it so far.
-/
def readClassBody? : (fuel : Nat) → (waiting : Option (SetOperation × ClassSet)) →
    (items : ClassSet) → Cursor → Option (ClassSet × Cursor)
  | 0, _, _, _ => none
  | fuel + 1, waiting, items, s =>
    let s := s.settle
    match s.rest with
    | [] => none
    | '[' :: t =>
      match readPosix? s.rest with
      | some (item, behind) => readClassBody? fuel waiting (items.add item) (s.goto behind)
      | none => do
        let (negated, start, inner) := readClassStart (s.goto t)
        let (set, s) ← readClassBody? fuel none start inner
        readClassBody? fuel waiting (items.add (.bracketed negated set)) s
    | ']' :: t => some (finishOperation waiting items, s.goto t)
    | '&' :: '&' :: t =>
      readClassBody? fuel (some (.intersection, finishOperation waiting items)) .empty (s.goto t)
    | '-' :: '-' :: t =>
      readClassBody? fuel (some (.difference, finishOperation waiting items)) .empty (s.goto t)
    | '~' :: '~' :: t =>
      readClassBody? fuel (some (.symmetricDifference, finishOperation waiting items)) .empty
        (s.goto t)
    | _ => do
      let (item, s) ← readClassRange? s
      readClassBody? fuel waiting (items.add item) s

def readClass? (s : Cursor) : Option (Node × Cursor) := do
  let (negated, start, inner) := readClassStart s
  let (set, s) ← readClassBody? (s.rest.length + 1) none start inner
  return (.bracketed negated set, s)

/-! ## Repetition -/

def maxCount : Nat := 0xFFFFFFFF

/-- The digits ahead and the cursor behind them; blanks may stand around a number anywhere. -/
def readDigits : (fuel : Nat) → Cursor → Text × Cursor
  | 0, s => ([], s)
  | fuel + 1, s =>
    match s.rest with
    | c :: t =>
      if c.isDigit then
        let (digits, s) := readDigits fuel (s.settleAt t)
        (c :: digits, s)
      else
        ([], s)
    | [] => ([], s)

/-- Passes over blanks, whether they are ignored elsewhere or not. -/
def readPadding : (fuel : Nat) → Cursor → Cursor
  | 0, s => s
  | fuel + 1, s =>
    match s.rest with
    | c :: t => if isBlank c then readPadding fuel (s.settleAt t) else s
    | [] => s

def readCount (s : Cursor) : Option Nat × Cursor :=
  let s := s.goto (s.rest.dropWhile isBlank)
  let (digits, s) := readDigits (s.rest.length + 1) s
  let s := readPadding (s.rest.length + 1) s
  let value := digits.foldl (fun n c => n * 10 + (c.toNat - '0'.toNat)) 0
  (if digits.isEmpty || maxCount < value then none else some value, s)

/-- Is the repetition lazy?  Then a question mark follows it. -/
def readGreed (s : Cursor) : Bool × Cursor :=
  match s.rest with
  | '?' :: t => (false, s.goto t)
  | _ => (true, s)

def readCounted? (s : Cursor) : Option (Repetition × Cursor) := do
  let s := s.settle
  let (min, s) := readCount s
  let min ← min
  let (max, s) ←
    match s.rest with
    | ',' :: t =>
      let s := s.settleAt t
      match s.rest with
      | '\x7d' :: _ => some (none, s)
      | _ =>
        match readCount s with
        | (some max, s) => some (some max, s)
        | (none, _) => none
    | _ => some (some min, s)
  match s.rest with
  | '\x7d' :: t =>
    let (greedy, s) := readGreed (s.settleAt t)
    if max.all (min ≤ ·) then return (⟨min, max, greedy⟩, s) else none
  | _ => none

/-- Repeats the last item; a switch of flags cannot repeat. -/
def repeatLast? (times : Repetition) : List Node → Option (List Node)
  | [] => none
  | .setFlags _ :: _ => none
  | .empty :: _ => none
  | last :: before => some (.rep times last :: before)

/-! ## Groups -/

def Flag.ofLetter? : Char → Option Flag
  | 'i' => some .caseInsensitive
  | 'm' => some .multiLine
  | 's' => some .dotMatchesNewLine
  | 'U' => some .swapGreed
  | 'u' => some .unicode
  | 'R' => some .crlf
  | 'x' => some .ignoreBlanks
  | _ => none

/--
The flags behind a group's question mark, up to a colon or the closing parenthesis.  No flag may
be named twice, and the minus sign, of which there is one at most, must have a flag behind it.
-/
def readFlags? : (on : Bool) → (settings : List FlagSetting) → (dangling : Bool) → Text →
    Option (List FlagSetting × Text)
  | _, _, _, [] => none
  | on, settings, dangling, c :: t =>
    if c = ':' ∨ c = ')' then
      if dangling then none else some (settings.reverse, c :: t)
    else if c = '-' then
      if on then readFlags? false settings true t else none
    else
      match Flag.ofLetter? c with
      | some flag =>
        if settings.any (·.flag = flag) then none
        else readFlags? on (⟨flag, on⟩ :: settings) false t
      | none => none

def settingOf? (flag : Flag) (settings : List FlagSetting) : Option Bool :=
  (settings.find? (·.flag = flag)).map (·.on)

/-- May the character stand in a group's name, at its start or later? -/
def isNameChar (first : Bool) (c : Char) : Bool :=
  if first then c = '_' || isAlphabetic c
  else c = '_' || c = '.' || c = '[' || c = ']' || isAlphabetic c || isNumeric c

def readGroupName? (names : List Text) (t : Text) : Option (Text × Text) :=
  let name := t.takeWhile (· ≠ '>')
  match name, t.drop name.length with
  | c :: more, _ :: behind =>
    if isNameChar true c && more.all (isNameChar false) && !names.contains name then
      some (name, behind)
    else
      none
  | _, _ => none

inductive GroupStart
  | switch (settings : List FlagSetting)
  | group (captures : Bool) (settings : List FlagSetting)

/-- The start of a group, at the character behind its parenthesis; there is no look-around. -/
def readGroupStart? (s : Cursor) : Option (GroupStart × Cursor) :=
  let s := s.settle
  -- `?<` starts a name as well, so look-around is recognised first.
  let isLookAround := ["?=", "?!", "?<=", "?<!"].any fun lead =>
    Text.startsWith lead.toList s.rest
  let name? := Text.dropLead? "?P<".toList s.rest <|> Text.dropLead? "?<".toList s.rest
  if isLookAround then none
  else
    match name? with
    | some t => do
      let (name, behind) ← readGroupName? s.names t
      return (.group true [], { s with rest := behind, names := name :: s.names })
    | none =>
      match s.rest with
      | '?' :: t => do
        let (settings, behind) ← readFlags? true [] false t
        match behind with
        | ')' :: behind =>
          if settings.isEmpty then none else return (.switch settings, s.goto behind)
        | _ :: behind => return (.group false settings, s.goto behind)
        | [] => none
      | _ => some (.group true [], s)

/-! ## Patterns -/

/-- The items of a sequence, the last one first, as one node. -/
def sequenceOf : List Node → Node
  | [] => .empty
  | [n] => n
  | n :: before => .seq (sequenceOf before) n

/-- The alternatives, the last one first, as one node. -/
def alternativesOf : List Node → Node
  | [] => .empty
  | [n] => n
  | n :: before => .alt (alternativesOf before) n

def readPrimitive? (s : Cursor) : Option (Primitive × Cursor) :=
  match s.rest with
  | [] => none
  | '\\' :: t => readEscape? (s.goto t)
  | '.' :: t => some (.dot, s.goto t)
  | '^' :: t => some (.assertion .lineStart, s.goto t)
  | '$' :: t => some (.assertion .lineEnd, s.goto t)
  | c :: t => some (.literal ⟨c, false⟩, s.goto t)

def Primitive.toNode : Primitive → Node
  | .literal l => .literal l
  | .assertion a => .assertion a
  | .named negated name => .named negated name
  | .shorthand negated name => .shorthand negated name
  | .dot => .dot

/--
A pattern up to the end of its group: `done` are the alternatives before, and `items` the items of
this one, the last first.  `fuel` bounds the items by the text's length.
-/
def readNode? : (fuel : Nat) → (done items : List Node) → Cursor → Option (Node × Cursor)
  | 0, _, _, _ => none
  | fuel + 1, done, items, s =>
    let s := s.settle
    let continueWith (times : Repetition) (s : Cursor) : Option (Node × Cursor) := do
      readNode? fuel done (← repeatLast? times items) s
    match s.rest with
    | [] => some (alternativesOf (sequenceOf items :: done), s)
    | ')' :: _ => some (alternativesOf (sequenceOf items :: done), s)
    | '|' :: t => readNode? fuel (sequenceOf items :: done) [] (s.goto t)
    | '(' :: t => do
      let (start, inner) ← readGroupStart? (s.goto t)
      match start with
      | .switch settings =>
        -- A switch holds up to the end of the group that it stands in.
        let ignore := (settingOf? .ignoreBlanks settings).getD s.ignoreBlanks
        readNode? fuel done (.setFlags settings :: items) { inner with ignoreBlanks := ignore }
      | .group captures settings =>
        let ignore := (settingOf? .ignoreBlanks settings).getD s.ignoreBlanks
        let (node, behind) ← readNode? fuel [] [] { inner with ignoreBlanks := ignore }
        match behind.rest with
        | ')' :: t =>
          readNode? fuel done (.group captures settings node :: items)
            { behind with rest := t, ignoreBlanks := s.ignoreBlanks }
        | _ => none
    | '[' :: t => do
      let (node, s) ← readClass? (s.goto t)
      readNode? fuel done (node :: items) s
    | '?' :: t =>
      let (greedy, s) := readGreed (s.goto t)
      continueWith ⟨0, some 1, greedy⟩ s
    | '*' :: t =>
      let (greedy, s) := readGreed (s.goto t)
      continueWith ⟨0, none, greedy⟩ s
    | '+' :: t =>
      let (greedy, s) := readGreed (s.goto t)
      continueWith ⟨1, none, greedy⟩ s
    | '\x7b' :: t => do
      let (times, s) ← readCounted? (s.goto t)
      continueWith times s
    | _ => do
      let (item, s) ← readPrimitive? s
      readNode? fuel done (item.toNode :: items) s

def Node.ofText? (t : Text) : Option Node :=
  match readNode? (t.length + 1) [] [] ⟨t, false, []⟩ with
  | some (node, s) => if s.rest.isEmpty then some node else none
  | none => none

end ShellGuard.Regex
