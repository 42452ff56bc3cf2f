import ShellGuard.Text.Visible
import ShellGuard.Transform

/-!
# Summaries and messages — what a user reads on the terminal

## Main definitions

* `summaryText` — the symbols that a transform altered, one per line.
* `Message` — a line with a label in front.
-/

namespace ShellGuard

/-! ## Colours -/

inductive Colour
  | red
  | yellow
  | magenta
  | cyan
  deriving DecidableEq, Repr

namespace Colour

/-- The number of a colour in terminal codes. -/
def code : Colour → Text
  | red => "31"
  | yellow => "33"
  | magenta => "35"
  | cyan => "36"

/-- The terminal code with a number. -/
def escape (number : Text) : Text :=
  .concat ["\x1b[", number, "m"]

def paint (c : Colour) (t : Text) : Text :=
  .concat [escape c.code, t, escape "39"]

def embolden (t : Text) : Text :=
  .concat [escape "1", t, escape "0"]

end Colour

/-! ## Summaries -/

/-- The text, filled up with spaces to `width` characters. -/
def padTo (width : Nat) (t : Text) : Text :=
  t ++ List.replicate (width - t.length) ' '

def shownSymbol (symbol : Text) : Text :=
  padTo 8 (.concat ["'", Visible.text symbol, "'"])

def summaryHeader (kind : TransformKind) (record : Record) : Text :=
  .concat
    ["Symbols altered by '", kind.name, "' (", .ofNat record.total, " total, ",
      .ofNat record.distinct, " distinct):"]

def summaryLine (coloured : Bool) (symbol : Text) (count : Nat) : Text :=
  let shown := shownSymbol symbol
  .concat
    ["  ", if coloured then Colour.yellow.paint shown else shown, " x", .ofNat count, "\n"]

/-- The symbols that a transform altered, one per line. -/
def summaryText (coloured : Bool) (kind : TransformKind) (record? : Option Record) : Text :=
  match record? with
  | none => .concat ["No symbols were altered by '", kind.name, "'.\n"]
  | some record =>
    let header := summaryHeader kind record
    (if coloured then Colour.embolden (Colour.magenta.paint header) else header) ++ '\n' ::
      record.counts.entries.flatMap fun entry => summaryLine coloured entry.1 entry.2

/-! ## Messages -/

inductive Message
  | info (text : Text)
  | error (text : Text)
  deriving DecidableEq, Repr

def labelled (coloured : Bool) (colour : Colour) (label text : Text) : Text :=
  .concat [if coloured then Colour.embolden (colour.paint label) else label, " ", text, "\n"]

def Message.line (coloured : Bool) : Message → Text
  | .info text => labelled coloured .cyan "[INFO]" text
  | .error text => labelled coloured .red "[ERROR]" text

end ShellGuard
