import ShellGuard.Text.Basic

/-!
# Characters of the shell — which ones are harmless, and which ones the shell acts on

## Main definitions

* `isAllowed` — the characters that task arguments may hold as they are.
* `isCommandMeta`, `isShellSpecial` — the characters that chain or redirect commands, and those that
  mean something to the shell anywhere outside quotes.
* `lineBreak?` — the line break that a text starts with.
-/

namespace ShellGuard.Shell

def allowedPunctuation : Text :=
  ['\x60', '\\', ' ', '_', '\'', '"', '-', '=', '/', ':', '.']

/-- May task arguments hold the character?  ASCII letters, digits and some punctuation may stay. -/
def isAllowed (c : Char) : Bool :=
  c.isAlphanum || allowedPunctuation.contains c

def commandMeta : Text :=
  [';', '|', '&', '<', '>', '(', ')', '#']

/-- Does the character chain, redirect, group or comment out commands? -/
def isCommandMeta (c : Char) : Bool :=
  commandMeta.contains c

def shellSpecial : Text :=
  commandMeta ++ ['\'', '"', '\\', '\x60', ' ', '\t', '!', '*', '?', '[', ']', '\x7b', '\x7d', '~']

/-- Does the character mean something to the shell outside quotes?  The dollar sign is apart. -/
def isShellSpecial (c : Char) : Bool :=
  shellSpecial.contains c

def isLineBreak (c : Char) : Bool :=
  c = '\n' || c = '\r'

/-- The line break that the text starts with; a carriage return and a line feed are one. -/
def lineBreak? : Text → Option Text
  | '\r' :: '\n' :: _ => some ['\r', '\n']
  | '\r' :: _ => some ['\r']
  | '\n' :: _ => some ['\n']
  | _ => none

end ShellGuard.Shell
