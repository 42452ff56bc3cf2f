import ShellGuard.Regex.Program
import ShellGuard.Text.Basic

/-!
# Searching — where a program matches in a text

The machine keeps an ordered list of threads, the preferred one first, and never two at one place
of the code, so a search takes time linear in the text.  Of all matches the one that starts first is
found, and of those the preferred one.

## Main definitions

* `Program.find?` — the span of the first match.
* `Hit`, `Program.nextHit?` — the first match as a text with what lies before and behind it.
* `Findings`, `Program.findAll` — all matches in order, with the texts between them; together they
  make up the text again, `text_findAll`.
-/

namespace ShellGuard.Regex

/-- A thread: a place of the code, and where its match started. -/
structure Thread where
  place : Nat
  start : Nat
  deriving DecidableEq, Repr

/-- The characters from `start` up to `stop`, counted from the start of the text. -/
structure Span where
  start : Nat
  stop : Nat
  deriving DecidableEq, Repr

namespace Program

/--
Follows forks and conditions until every thread reads a character or accepts, in order of
preference; a place already seen is dropped.  `fuel` bounds the number of threads followed.
-/
def settle (p : Program) (position : Position) :
    (fuel : Nat) → (work : List Thread) → (seen : Array Bool) → (settled : List Thread) →
    List Thread
  | 0, _, _, settled => settled.reverse
  | _, [], _, settled => settled.reverse
  | fuel + 1, thread :: work, seen, settled =>
    if seen.getD thread.place true then
      settle p position fuel work seen settled
    else
      let seen := seen.setIfInBounds thread.place true
      match p.code.getD thread.place .fail with
      | .chars _ _ => settle p position fuel work seen (thread :: settled)
      | .accept => settle p position fuel work seen (thread :: settled)
      | .fail => settle p position fuel work seen settled
      | .look condition next =>
        if condition.holds position then
          settle p position fuel (⟨next, thread.start⟩ :: work) seen settled
        else
          settle p position fuel work seen settled
      | .fork preferred other =>
        settle p position fuel (⟨preferred, thread.start⟩ :: ⟨other, thread.start⟩ :: work) seen
          settled

def settleAll (p : Program) (position : Position) (threads : List Thread) : List Thread :=
  p.settle position (threads.length + 2 * p.code.size + 1) threads
    (Array.replicate p.code.size false) []

/--
Moves the threads over a character.  A thread that accepts ends its match at `index`, and the
threads that are less preferred end with it.
-/
def advance (p : Program) (index : Nat) (c : Option Char) :
    (threads : List Thread) → (moved : List Thread) → Option Span × List Thread
  | [], moved => (none, moved.reverse)
  | thread :: threads, moved =>
    match p.code.getD thread.place .fail with
    | .accept => (some ⟨thread.start, index⟩, moved.reverse)
    | .chars set next =>
      if c.any set.contains then advance p index c threads (⟨next, thread.start⟩ :: moved)
      else advance p index c threads moved
    | _ => advance p index c threads moved

/--
Runs the machine from a position on; a new thread starts at each position until something has
matched.
-/
def run (p : Program) : (before : Option Char) → (rest : Text) → (index : Nat) →
    (threads : List Thread) → (best : Option Span) → Option Span
  | before, rest, index, threads, best =>
    -- The new thread comes last: a match that starts earlier is preferred to all that it finds.
    let started := if best.isNone then threads ++ [⟨p.start, index⟩] else threads
    let settled := p.settleAll ⟨before, rest.head?⟩ started
    let (ended, moved) := p.advance index rest.head? settled []
    -- What ends now belongs to a thread that is preferred to the one that ended before.
    let best := ended <|> best
    match rest with
    | [] => best
    | c :: rest =>
      if moved.isEmpty && best.isSome then best else run p (some c) rest (index + 1) moved best

/-- The first match in `text`, of which `before` is the character before it. -/
def find? (p : Program) (before : Option Char) (text : Text) : Option Span :=
  p.run before text 0 [] none

def matchesIn (p : Program) (text : Text) : Bool :=
  (p.find? none text).isSome

end Program

/-! ## All matches -/

structure Hit where
  gap : Text
  found : Text
  rest : Text
  deriving DecidableEq, Repr

def Hit.text (h : Hit) : Text :=
  h.gap ++ h.found ++ h.rest

def Hit.ofSpan (text : Text) (s : Span) : Hit :=
  let behind := text.drop s.start
  ⟨text.take s.start, behind.take (s.stop - s.start), behind.drop (s.stop - s.start)⟩

theorem Hit.text_ofSpan (text : Text) (s : Span) : (Hit.ofSpan text s).text = text := by
  rw [Hit.text, Hit.ofSpan, List.append_assoc, List.take_append_drop, List.take_append_drop]

/-- The matches of a text, each behind the text since the one before, and the text behind them. -/
structure Findings where
  hits : List (Text × Text)
  tail : Text
  deriving DecidableEq, Repr

namespace Findings

def text (f : Findings) : Text :=
  (f.hits.flatMap fun hit => hit.1 ++ hit.2) ++ f.tail

def consHit (gap found : Text) (f : Findings) : Findings :=
  ⟨(gap, found) :: f.hits, f.tail⟩

def consChar (c : Char) : Findings → Findings
  | ⟨[], tail⟩ => ⟨[], c :: tail⟩
  | ⟨(gap, found) :: hits, tail⟩ => ⟨(c :: gap, found) :: hits, tail⟩

theorem text_consHit (gap found : Text) (f : Findings) :
    (f.consHit gap found).text = gap ++ found ++ f.text := by
  simp [consHit, text]

theorem text_consChar (c : Char) (f : Findings) : (f.consChar c).text = c :: f.text := by
  rcases f with ⟨_ | ⟨⟨gap, found⟩, hits⟩, tail⟩ <;> simp [consChar, text]

end Findings

namespace Program

def nextHit? (p : Program) (before : Option Char) (text : Text) : Option Hit :=
  (p.find? before text).map (Hit.ofSpan text)

theorem text_of_nextHit? {p : Program} {before : Option Char} {text : Text} {h : Hit}
    (hit : p.nextHit? before text = some h) : h.text = text := by
  obtain ⟨s, _, rfl⟩ := Option.map_eq_some_iff.1 hit
  exact Hit.text_ofSpan text s

/--
The matches from a place on.  An empty match is passed over at the place where the last one ended,
which `afterMatch` says: the search goes on behind the next character.  `fuel` bounds the steps.
-/
def findFrom (p : Program) : (fuel : Nat) → (before : Option Char) → (afterMatch : Bool) → Text →
    Findings
  | 0, _, _, text => ⟨[], text⟩
  | fuel + 1, before, afterMatch, text =>
    match p.nextHit? before text with
    | none => ⟨[], text⟩
    | some hit =>
      if afterMatch && (hit.gap ++ hit.found).isEmpty then
        match text with
        | [] => ⟨[], []⟩
        | c :: text => (findFrom p fuel (some c) false text).consChar c
      else
        (findFrom p fuel ((hit.gap ++ hit.found).getLast?.or before) true hit.rest).consHit
          hit.gap hit.found

/-- All matches in a text, from left to right without overlap. -/
def findAll (p : Program) (text : Text) : Findings :=
  p.findFrom (2 * text.length + 2) none false text

theorem text_findFrom (p : Program) (fuel : Nat) (before : Option Char) (afterMatch : Bool)
    (text : Text) : (p.findFrom fuel before afterMatch text).text = text := by
  induction fuel generalizing before afterMatch text with
  | zero => simp [findFrom, Findings.text]
  | succ fuel ih =>
    unfold findFrom
    split
    · simp [Findings.text]
    · next hit heq =>
      split
      · cases text with
        | nil => simp [Findings.text]
        | cons c text => simp [Findings.text_consChar, ih]
      · rw [Findings.text_consHit, ih]
        exact text_of_nextHit? heq

/-- The matches and the texts between them make up the text. -/
theorem text_findAll (p : Program) (text : Text) : (p.findAll text).text = text :=
  text_findFrom p _ _ _ text

end Program

end ShellGuard.Regex
