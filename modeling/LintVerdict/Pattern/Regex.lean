import LintVerdict.Pattern.CharSet

/-!
# Regular expressions

The core of the pattern language: everything that can be written comes down to seven forms.
Alternatives have an order, and a loop prefers either to go on or to stop, so that of all ways
to match from one place exactly one is preferred.

## Main definitions

* `Look`: the conditions on a place between two characters.
* `Regex`: expressions.
* `Regex.optional`, `Regex.star`, `Regex.repeated`: the usual operators, from the seven forms.
-/

namespace LintVerdict.Pattern

/-- A condition on a place in a text. A flag says whether words are made of ASCII only. -/
inductive Look where
  /-- The start of the text. -/
  | textStart
  /-- The end of the text. -/
  | textEnd
  /-- The start of a line, where a carriage return and a line feed in a row end a line once. -/
  | lineStart
  /-- The end of a line, where a carriage return and a line feed in a row end a line once. -/
  | lineEnd
  /-- The start of a line that only a line feed ends. -/
  | feedStart
  /-- The end of a line that only a line feed ends. -/
  | feedEnd
  /-- The edge of a word. -/
  | wordEdge (ascii : Bool)
  /-- No edge of a word. -/
  | notWordEdge (ascii : Bool)
  /-- The start of a word. -/
  | wordStart (ascii : Bool)
  /-- The end of a word. -/
  | wordEnd (ascii : Bool)
  /-- A place with no word before it. -/
  | noWordBefore (ascii : Bool)
  /-- A place with no word after it. -/
  | noWordAfter (ascii : Bool)
  deriving DecidableEq, Repr

namespace Look

/-- Whether the neighbour of a place is there and belongs to a word. -/
def inWord (ascii : Bool) : Option Char → Bool
  | none => false
  | some c => if ascii then CharSet.isAsciiWord c else CharSet.isWord c

/-- Whether the condition holds between two neighbours, which are absent at the text's ends. -/
def holds (before after : Option Char) : Look → Bool
  | textStart => before.isNone
  | textEnd => after.isNone
  | lineStart => before.isNone || before = some '\n' || (before = some '\r' && after ≠ some '\n')
  | lineEnd => after.isNone || after = some '\r' || (after = some '\n' && before ≠ some '\r')
  | feedStart => before.isNone || before = some '\n'
  | feedEnd => after.isNone || after = some '\n'
  | wordEdge a => inWord a before != inWord a after
  | notWordEdge a => inWord a before == inWord a after
  | wordStart a => !inWord a before && inWord a after
  | wordEnd a => inWord a before && !inWord a after
  | noWordBefore a => !inWord a before
  | noWordAfter a => !inWord a after

end Look

/-- A regular expression. -/
inductive Regex where
  /-- Matches where it stands, without a character. -/
  | empty
  /-- One character of a set. -/
  | chars (s : CharSet)
  /-- A condition on the place. -/
  | look (l : Look)
  /-- One expression, then another. -/
  | cat (a b : Regex)
  /-- One of two expressions, the first preferred. -/
  | alt (a b : Regex)
  /-- One or more times. A greedy loop prefers to go on, a lazy one to stop. -/
  | plus (greedy : Bool) (a : Regex)
  /-- An expression whose match is remembered under a number. -/
  | group (index : Nat) (a : Regex)
  deriving DecidableEq, Repr

namespace Regex

/-- Not at all or once; a greedy option prefers once. -/
def optional (greedy : Bool) (a : Regex) : Regex := if greedy then alt a empty else alt empty a

/-- Any number of times. Going through `plus` keeps the order of preference right also when
`a` can match no character. -/
def star (greedy : Bool) (a : Regex) : Regex := optional greedy (plus greedy a)

/-- Exactly `n` times. -/
def times (a : Regex) : Nat → Regex
  | 0 => empty
  | 1 => a
  | n + 2 => cat a (times a (n + 1))

/-- Up to `n` times, each further time inside the option of the one before. -/
def upTo (greedy : Bool) (a : Regex) : Nat → Regex
  | 0 => empty
  | 1 => optional greedy a
  | n + 2 => optional greedy (cat a (upTo greedy a (n + 1)))

/-- At least `n` times. -/
def atLeast (greedy : Bool) (a : Regex) : Nat → Regex
  | 0 => star greedy a
  | 1 => plus greedy a
  | n + 2 => cat a (atLeast greedy a (n + 1))

/-- Whether an expression can only match without a character. -/
def onlyEmpty : Regex → Bool
  | empty => true
  | chars _ => false
  | look _ => true
  | cat a b => a.onlyEmpty && b.onlyEmpty
  | alt a b => a.onlyEmpty && b.onlyEmpty
  | plus _ a => a.onlyEmpty
  | group _ a => a.onlyEmpty

/-- Between `min` and `max` times. Zero times at most is the empty expression, with nothing of
`a` left in it. An expression that never takes a character is repeated at most once. -/
def repeated (min : Nat) (max : Option Nat) (greedy : Bool) (a : Regex) : Regex :=
  if max = some 0 then empty
  else if a.onlyEmpty then (if min = 0 then optional greedy a else a)
  else
    match max with
    | none => atLeast greedy a min
    | some m =>
      if min = m then times a m
      else if min = 0 then upTo greedy a m
      else cat (times a min) (upTo greedy a (m - min))

/-- The numbers of the groups in an expression. -/
def groups : Regex → List Nat
  | empty => []
  | chars _ => []
  | look _ => []
  | cat a b => a.groups ++ b.groups
  | alt a b => a.groups ++ b.groups
  | plus _ a => a.groups
  | group i a => i :: a.groups

end Regex

end LintVerdict.Pattern
