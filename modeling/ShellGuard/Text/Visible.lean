import ShellGuard.Unicode.Property

/-!
# Visible text — text shown without controls, so that a line of output stays one line

Quotes, backslashes and the common controls are written as a backslash and a letter, any other
character that does not print as its code point in braces.  A combining mark is shown by its code
point where it has nothing before it to combine with.

## Main definitions

* `Visible.ofChar` — one character under a choice of the quotes that need a backslash.
* `Visible.text` — a text, with both kinds of quotes escaped.
* `Visible.quotedChar` — a character between single quotes.
-/

namespace ShellGuard.Visible

/-- Does the character leave a mark on paper?  The space does, other separators do not. -/
def isPrintable (c : Char) : Bool :=
  c == ' ' ||
    !(Category.others.contains c || Category.separators.contains c)

def hex (n : Nat) : Text :=
  Nat.toDigits 16 n

def codePoint (c : Char) : Text :=
  ['\\', 'u', '\x7b'] ++ hex c.toNat ++ ['\x7d']

/--
A character in visible form: `quotes` are the quotes that take a backslash, and `alone` says that
the character has nothing before it that a mark could combine with.
-/
def ofChar (quotes : Text) (alone : Bool) (c : Char) : Text :=
  if c = '\x00' then ['\\', '0']
  else if c = '\t' then ['\\', 't']
  else if c = '\r' then ['\\', 'r']
  else if c = '\n' then ['\\', 'n']
  else if c = '\\' ∨ c ∈ quotes then ['\\', c]
  else if alone && CharProperty.graphemeExtend.contains c then codePoint c
  else if isPrintable c then [c]
  else codePoint c

/-- A text in visible form; only its first character stands alone. -/
def text : Text → Text
  | [] => []
  | c :: rest => ofChar ['\'', '"'] true c ++ rest.flatMap (ofChar ['\'', '"'] false)

def quotedChar (c : Char) : Text :=
  ['\''] ++ ofChar ['\''] true c ++ ['\'']

end ShellGuard.Visible
