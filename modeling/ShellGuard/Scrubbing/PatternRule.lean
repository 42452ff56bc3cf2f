import ShellGuard.ConfigError

/-!
# Pattern rules — a pattern in the place of the list of allowed characters

## Main definitions

* `PatternRule` — a pattern with its options.
* `PatternRule.ofLiteral` — reads `/pattern/flags`; any other text is a pattern by itself.
* `PatternRule.compile` — the program of a rule that may be used.
-/

namespace ShellGuard

inductive Reach
  | every
  | first
  deriving DecidableEq, Repr

namespace Reach

def name : Reach → Text
  | .every => "all"
  | .first => "first"

def ofName? (name : Text) : Option Reach :=
  [Reach.every, Reach.first].find? fun reach => reach.name = name

end Reach

structure PatternRule where
  pattern : Text := []
  reach : Reach := .every
  caseInsensitive : Bool := false
  multiLine : Bool := false
  dotMatchesNewLine : Bool := false
  deriving DecidableEq, Repr

namespace PatternRule

def fieldNames : List Text :=
  ["pattern", "scope", "case_insensitive", "multi_line", "dot_matches_new_line"]

/-- The rule with one more flag of a literal; `g` asks for every match, and `u` for nothing. -/
def withFlag? (rule : PatternRule) : Char → Option PatternRule
  | 'g' => some { rule with reach := .every }
  | 'i' => some { rule with caseInsensitive := true }
  | 'm' => some { rule with multiLine := true }
  | 's' => some { rule with dotMatchesNewLine := true }
  | 'u' => some rule
  | _ => none

/-- The rule with the flags of a literal; the first unknown flag is the fault. -/
def withFlags (rule : PatternRule) : Text → Except LiteralFault PatternRule
  | [] => .ok rule
  | flag :: flags =>
    match rule.withFlag? flag with
    | some rule => rule.withFlags flags
    | none => .error (.unknownFlag flag)

/--
The text in front of the last slash, and the text behind it, if there is a slash.
-/
def splitAtLastSlash? : Text → Option (Text × Text)
  | [] => none
  | c :: t =>
    match splitAtLastSlash? t with
    | some (before, behind) => some (c :: before, behind)
    | none => if c = '/' then some ([], t) else none

/--
The rule of a literal.  Between slashes stands a pattern, behind the last one its flags; without a
slash in front the text is a pattern of which every match is replaced.
-/
def ofLiteral (literal : Text) : Except ConfigError PatternRule :=
  match literal with
  | '/' :: body =>
    match splitAtLastSlash? body with
    | none => .error (.badLiteral literal .unclosed)
    | some (pattern, flags) =>
      match (PatternRule.withFlags { pattern := pattern, reach := .first } flags) with
      | .ok rule => .ok rule
      | .error fault => .error (.badLiteral literal fault)
  | _ => .ok { pattern := literal }

def lengthLimit : Nat := 500

def flags (rule : PatternRule) : Regex.Flags :=
  { caseInsensitive := rule.caseInsensitive
    multiLine := rule.multiLine
    dotMatchesNewLine := rule.dotMatchesNewLine }

/--
The program of the rule, if the rule may be used: it replaces every match, is not too long, is a
pattern, and does not match the empty text.
-/
def compile (rule : PatternRule) : Except ConfigError Regex.Program :=
  if rule.reach ≠ .every then .error (.partialPattern rule.pattern)
  else if lengthLimit < rule.pattern.byteSize then
    .error (.longPattern rule.pattern.byteSize lengthLimit)
  else
    match Regex.compile rule.flags rule.pattern with
    | .error fault => .error (.badPattern rule.pattern fault)
    | .ok program =>
      if program.matchesIn [] then .error (.emptyMatch rule.pattern) else .ok program

end PatternRule

end ShellGuard
