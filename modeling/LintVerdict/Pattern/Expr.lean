import LintVerdict.Pattern.CharSet

/-!
# Written patterns

The form in which a pattern is written, before its flags are worked into it.

## Main definitions

* `Flag`, `Flags`: the flags that change what the parts of a pattern mean.
* `ClassExpr`: a written set of characters.
* `Expr`: a written pattern.
* `Expr.depth`: how deep its parts are nested.
-/

namespace LintVerdict.Pattern

/-- A flag by its letter. -/
inductive Flag where
  /-- The letter `i`: case does not matter. -/
  | ignoreCase
  /-- The letter `m`: the line anchors hold at every line. -/
  | multiLine
  /-- The letter `s`: the dot takes line ends too. -/
  | dotAll
  /-- The letter `U`: plain repetitions are lazy. -/
  | swapGreed
  /-- The letter `u`: classes are those of Unicode. -/
  | unicode
  /-- The letter `R`: a carriage return ends a line too. -/
  | crlf
  /-- The letter `x`: blanks and comments in the pattern do not count. -/
  | ignoreSpace
  deriving DecidableEq, Repr

/-- The flag of a letter. -/
def Flag.ofChar? : Char → Option Flag
  | 'i' => some ignoreCase
  | 'm' => some multiLine
  | 's' => some dotAll
  | 'U' => some swapGreed
  | 'u' => some unicode
  | 'R' => some crlf
  | 'x' => some ignoreSpace
  | _ => none

/-- Which flags are on. Blanks that do not count are left out while a pattern is read, so
that flag has no place here. -/
structure Flags where
  /-- Case does not matter. -/
  ignoreCase : Bool
  /-- The line anchors hold at every line. -/
  multiLine : Bool
  /-- The dot takes line ends too. -/
  dotAll : Bool
  /-- Plain repetitions are lazy. -/
  swapGreed : Bool
  /-- Classes are those of Unicode. -/
  unicode : Bool
  /-- A carriage return ends a line too. -/
  crlf : Bool
  deriving DecidableEq, Repr

/-- Flags to turn on or off, in order. -/
abbrev FlagChange := List (Flag × Bool)

namespace Flags

/-- The flags with one of them set. -/
def set (f : Flags) : Flag × Bool → Flags
  | (.ignoreCase, b) => { f with ignoreCase := b }
  | (.multiLine, b) => { f with multiLine := b }
  | (.dotAll, b) => { f with dotAll := b }
  | (.swapGreed, b) => { f with swapGreed := b }
  | (.unicode, b) => { f with unicode := b }
  | (.crlf, b) => { f with crlf := b }
  | (.ignoreSpace, _) => f

/-- The flags after a change. -/
def apply (f : Flags) (change : FlagChange) : Flags := change.foldl set f

/-- The flags of an output pattern: line anchors at every line, and lines that end with a line
feed, a carriage return or both. -/
def output : Flags := ⟨false, true, false, false, true, true⟩

end Flags

/-- The classes with one-letter names. -/
inductive ClassLetter where
  /-- Decimal digits. -/
  | digit
  /-- Blanks. -/
  | space
  /-- Word characters. -/
  | word
  deriving DecidableEq, Repr

/-- A written property of characters. -/
inductive PropertyQuery where
  /-- A property, category or script by its name. -/
  | named (name : String)
  /-- A property together with a value. -/
  | valued (property value : String)
  deriving DecidableEq, Repr

/-- A written set of characters. -/
inductive ClassExpr where
  /-- No character. -/
  | empty
  /-- One character; the flag says that it is written as a two-digit byte. -/
  | char (c : Char) (byte : Bool)
  /-- The characters between two. -/
  | range (lo hi : Char)
  /-- A named ASCII class, by its ranges. -/
  | ascii (negated : Bool) (ranges : List (Nat × Nat))
  /-- A class with a one-letter name. -/
  | letter (negated : Bool) (l : ClassLetter)
  /-- The characters with a property. -/
  | property (negated : Bool) (q : PropertyQuery)
  /-- A set in brackets. -/
  | bracket (negated : Bool) (s : ClassExpr)
  /-- The characters in one of two sets. -/
  | union (a b : ClassExpr)
  /-- The characters in both sets. -/
  | inter (a b : ClassExpr)
  /-- The characters in the first set only. -/
  | diff (a b : ClassExpr)
  /-- The characters in exactly one of two sets. -/
  | symmDiff (a b : ClassExpr)
  deriving DecidableEq, Repr

/-- A written condition on a place. -/
inductive Assertion where
  /-- A caret. -/
  | lineStart
  /-- A dollar sign. -/
  | lineEnd
  /-- The start of the text. -/
  | textStart
  /-- The end of the text. -/
  | textEnd
  /-- The edge of a word. -/
  | wordEdge
  /-- No edge of a word. -/
  | notWordEdge
  /-- The start of a word. -/
  | wordStart
  /-- The end of a word. -/
  | wordEnd
  /-- A place with no word before it. -/
  | noWordBefore
  /-- A place with no word after it. -/
  | noWordAfter
  deriving DecidableEq, Repr

/-- A written pattern. -/
inductive Expr where
  /-- Nothing written. -/
  | empty
  /-- Flags that change from here on. -/
  | flags (change : FlagChange)
  /-- One character; the flag says that it is written as a two-digit byte. -/
  | char (c : Char) (byte : Bool)
  /-- A dot. -/
  | dot
  /-- A condition on the place. -/
  | assertion (a : Assertion)
  /-- A set of characters. -/
  | cls (s : ClassExpr)
  /-- A repetition. -/
  | repeated (min : Nat) (max : Option Nat) (greedy : Bool) (e : Expr)
  /-- A group whose match is remembered under a number. -/
  | group (index : Nat) (e : Expr)
  /-- A group with flags of its own whose match is not remembered. -/
  | flagged (change : FlagChange) (e : Expr)
  /-- Alternatives. -/
  | alt (a b : Expr)
  /-- A sequence. -/
  | cat (a b : Expr)
  deriving DecidableEq, Repr

namespace ClassExpr

/-- How deep the sets in a set are nested. A row of members counts once. -/
def depth : ClassExpr → Nat
  | bracket _ s => s.depth + 1
  | union a b =>
    match b with
    | union _ _ => max (a.depth + 1) b.depth
    | _ => max a.depth b.depth + 1
  | inter a b => max a.depth b.depth + 1
  | diff a b => max a.depth b.depth + 1
  | symmDiff a b => max a.depth b.depth + 1
  | _ => 0

end ClassExpr

namespace Expr

/-- How deep the parts of a pattern are nested. A row of alternatives or of parts in a
sequence counts once. -/
def depth : Expr → Nat
  | cls s => s.depth
  | repeated _ _ _ e => e.depth + 1
  | group _ e => e.depth + 1
  | flagged _ e => e.depth + 1
  | alt a b =>
    match b with
    | alt _ _ => max (a.depth + 1) b.depth
    | _ => max a.depth b.depth + 1
  | cat a b =>
    match b with
    | cat _ _ => max (a.depth + 1) b.depth
    | _ => max a.depth b.depth + 1
  | _ => 0

/-- A sequence of parts. -/
def sequence : List Expr → Expr
  | [] => empty
  | [e] => e
  | e :: rest => cat e (sequence rest)

/-- A choice between parts. -/
def choice : List Expr → Expr
  | [] => empty
  | [e] => e
  | e :: rest => alt e (choice rest)

end Expr

end LintVerdict.Pattern
