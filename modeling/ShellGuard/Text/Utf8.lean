import ShellGuard.Text.Basic

/-!
# UTF-8 — from octets to text

Only the shortest form of a character counts, and halves of surrogate pairs are no characters.

## Main definitions

* `Decoded.ofOctets` — the text of some octets, up to the first that are no UTF-8.
-/

namespace ShellGuard

/-- What octets say: the text in front of the first fault, and whether there is no fault. -/
structure Decoded where
  text : Text
  complete : Bool
  deriving DecidableEq, Repr

namespace Decoded

def ofText (text : Text) : Decoded := ⟨text, true⟩

/-- The six bits of an octet that follows a first one. -/
def trailing? (octet : UInt8) : Option Nat :=
  if octet &&& 0xC0 = 0x80 then some (octet &&& 0x3F).toNat else none

/-- The character of a code, if the code is that of one and needs a form of this length. -/
def charOfCode? (least code : Nat) : Option Char :=
  if h : least ≤ code ∧ code.isValidChar then some (Char.ofNatAux code h.2) else none

def readChar? : List UInt8 → Option (Char × List UInt8)
  | [] => none
  | a :: rest =>
    if a < 0x80 then do return (← charOfCode? 0 a.toNat, rest)
    else
      match rest with
      | [] => none
      | b :: rest => do
        let b ← trailing? b
        if a &&& 0xE0 = 0xC0 then
          return (← charOfCode? 0x80 ((a &&& 0x1F).toNat * 0x40 + b), rest)
        else
          match rest with
          | [] => none
          | c :: rest => do
            let c ← trailing? c
            if a &&& 0xF0 = 0xE0 then
              return (← charOfCode? 0x800 (((a &&& 0x0F).toNat * 0x40 + b) * 0x40 + c), rest)
            else if a &&& 0xF8 = 0xF0 then
              match rest with
              | [] => none
              | d :: rest => do
                let d ← trailing? d
                return (← charOfCode? 0x10000
                  ((((a &&& 0x07).toNat * 0x40 + b) * 0x40 + c) * 0x40 + d), rest)
            else none

/-- The text of octets behind the characters read so far, the newest first. -/
def decode : (fuel : Nat) → (read : Text) → List UInt8 → Decoded
  | 0, read, _ => ⟨read.reverse, false⟩
  | _ + 1, read, [] => ⟨read.reverse, true⟩
  | fuel + 1, read, octets =>
    match readChar? octets with
    | some (c, octets) => decode fuel (c :: read) octets
    | none => ⟨read.reverse, false⟩

/-- The text of octets, up to the first that are no UTF-8. -/
def ofOctets (octets : List UInt8) : Decoded :=
  decode (octets.length + 1) [] octets

end Decoded

end ShellGuard
