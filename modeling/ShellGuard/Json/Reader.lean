import ShellGuard.Json.Basic
import ShellGuard.Unicode.CharSet

/-!
# Reading JSON — from text to a value

The reader is strict: no comments, no commas at the end, no leading zeros, no raw controls inside
strings.

## Main definitions

* `Json.readString?`, `Json.readNumber?` — the leaves.
* `Json.read?` — a value at the start of a text.
* `Json.ofDocument?` — the value that a whole text is.
-/

namespace ShellGuard.Json

def skipBlanks (t : Text) : Text :=
  t.dropWhile fun c => c = ' ' || c = '\t' || c = '\n' || c = '\r'

/-! ## Strings -/

/-- The number of four hexadecimal digits, and the text behind them. -/
def readCodeUnit? : Text → Option (Nat × Text)
  | a :: b :: c :: d :: t => do
    let a ← CharSet.hexDigit? a
    let b ← CharSet.hexDigit? b
    let c ← CharSet.hexDigit? c
    let d ← CharSet.hexDigit? d
    return (((a * 16 + b) * 16 + c) * 16 + d, t)
  | _ => none

def isHighSurrogate (code : Nat) : Bool :=
  0xD800 ≤ code && code ≤ 0xDBFF

def isLowSurrogate (code : Nat) : Bool :=
  0xDC00 ≤ code && code ≤ 0xDFFF

/-- The character of an escaped code unit, which may need a second; `none` for half of a pair. -/
def readEscapedCode? (t : Text) : Option (Option Char × Text) := do
  let (code, t) ← readCodeUnit? t
  -- Half of a pair makes the string no text, which matters only if the string is asked for.
  if isHighSurrogate code then
    match t with
    | '\\' :: 'u' :: t' =>
      let (low, behind) ← readCodeUnit? t'
      if isLowSurrogate low then
        return (some (Char.ofNat (0x10000 + (code - 0xD800) * 0x400 + (low - 0xDC00))), behind)
      else
        return (none, t)
    | _ => return (none, t)
  else if isLowSurrogate code then
    return (none, t)
  else
    return (some (Char.ofNat code), t)

def simpleEscape? : Char → Option Char
  | '"' => some '"'
  | '\\' => some '\\'
  | '/' => some '/'
  | 'b' => some '\x08'
  | 'f' => some '\x0c'
  | 'n' => some '\n'
  | 'r' => some '\r'
  | 't' => some '\t'
  | _ => none

/--
The text up to the closing quote, and what is behind it; `none` for a string that is no text.
`fuel` bounds the characters by the text's length.
-/
def readString? : (fuel : Nat) → Text → Option (Option Text × Text)
  | 0, _ => none
  | fuel + 1, t =>
    match t with
    | [] => none
    | '"' :: t => some (some [], t)
    | '\\' :: 'u' :: t => do
      let (c?, t) ← readEscapedCode? t
      let (text?, t) ← readString? fuel t
      return (do return (← c?) :: (← text?), t)
    | '\\' :: c :: t => do
      let c ← simpleEscape? c
      let (text?, t) ← readString? fuel t
      return (text?.map (c :: ·), t)
    | c :: t =>
      if c = '\\' ∨ c.toNat < 0x20 then none
      else do
        let (text?, t) ← readString? fuel t
        return (text?.map (c :: ·), t)

/-! ## Numbers -/

/-- Digits, at least one, and the text behind them. -/
def readDigits? (t : Text) : Option (Text × Text) :=
  let digits := t.takeWhile Char.isDigit
  if digits.isEmpty then none else some (digits, t.drop digits.length)

def readFraction? : Text → Option (Text × Text)
  | '.' :: t => do
    let (digits, t) ← readDigits? t
    return ('.' :: digits, t)
  | t => some ([], t)

def readExponent? : Text → Option (Text × Text)
  | c :: t =>
    if c = 'e' ∨ c = 'E' then
      match t with
      | s :: t' =>
        if s = '+' ∨ s = '-' then do
          let (digits, t) ← readDigits? t'
          return (c :: s :: digits, t)
        else do
          let (digits, t) ← readDigits? t
          return (c :: digits, t)
      | [] => none
    else
      some ([], c :: t)
  | [] => some ([], [])

def decimal (digits : Text) : Nat :=
  digits.foldl (fun n c => n * 10 + (c.toNat - '0'.toNat)) 0

/-- A number; a zero is not followed by more digits. -/
def readNumber? (t : Text) : Option (Json × Text) := do
  let (sign, t) := match t with
    | '-' :: t => (['-'], t)
    | t => ([], t)
  let (whole, t) ← readDigits? t
  if whole.head? = some '0' ∧ whole ≠ ['0'] then none
  else
    let (fraction, t) ← readFraction? t
    let (exponent, t) ← readExponent? t
    if sign.isEmpty && fraction.isEmpty && exponent.isEmpty then
      return (.natural (decimal whole), t)
    else
      return (.number (sign ++ whole ++ fraction ++ exponent), t)

/-! ## Values -/

mutual

/-- A value at the start of a text, and the text behind it.  `fuel` bounds the parts. -/
def read? : (fuel : Nat) → Text → Option (Json × Text)
  | 0, _ => none
  | fuel + 1, t =>
    match skipBlanks t with
    | 'n' :: 'u' :: 'l' :: 'l' :: t => some (.null, t)
    | 't' :: 'r' :: 'u' :: 'e' :: t => some (.bool true, t)
    | 'f' :: 'a' :: 'l' :: 's' :: 'e' :: t => some (.bool false, t)
    | '"' :: t => (readString? (t.length + 1) t).map fun (text?, t) => (.string text?, t)
    | '[' :: t =>
      match skipBlanks t with
      | ']' :: t => some (.array [], t)
      | t => (readItems? fuel t).map fun (items, t) => (.array items, t)
    | '\x7b' :: t =>
      match skipBlanks t with
      | '\x7d' :: t => some (.object [], t)
      | t => (readFields? fuel t).map fun (fields, t) => (.object fields, t)
    | t => readNumber? t

/-- The items of an array that has some, to its closing bracket. -/
def readItems? : (fuel : Nat) → Text → Option (List Json × Text)
  | 0, _ => none
  | fuel + 1, t => do
    let (item, t) ← read? fuel t
    match skipBlanks t with
    | ',' :: t =>
      let (items, t) ← readItems? fuel t
      return (item :: items, t)
    | ']' :: t => return ([item], t)
    | _ => none

def readFields? : (fuel : Nat) → Text → Option (List (Option Text × Json) × Text)
  | 0, _ => none
  | fuel + 1, t => do
    match skipBlanks t with
    | '"' :: t =>
      let (name, t) ← readString? (t.length + 1) t
      match skipBlanks t with
      | ':' :: t =>
        let (value, t) ← read? fuel t
        match skipBlanks t with
        | ',' :: t =>
          let (fields, t) ← readFields? fuel t
          return ((name, value) :: fields, t)
        | '\x7d' :: t => return ([(name, value)], t)
        | _ => none
      | _ => none
    | _ => none

end

def ofDocument? (t : Text) : Option Json :=
  match read? (2 * t.length + 2) t with
  | some (value, rest) => if (skipBlanks rest).isEmpty then some value else none
  | none => none

end ShellGuard.Json
