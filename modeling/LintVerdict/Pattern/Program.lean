import Std.Data.HashSet
import LintVerdict.Pattern.Regex

/-!
# Running a regular expression

An expression is laid out as a list of instructions. The machine follows the preferred way
first and comes back to the others when it fails. It never visits an instruction twice at the
same place: what failed there once fails again, and a loop that took no character is not
entered anew. So a search takes time proportional to the text.

## Main definitions

* `Inst`, `Regex.code`: instructions, and the layout of an expression.
* `Program.run`: the depth-first search of the machine.
* `Program.search?`: the leftmost, most preferred match from a place on.
* `Program.allMatches`: the successive matches of a text.
-/

namespace LintVerdict.Pattern

/-- An instruction. Except for jumps and splits, the next one follows. -/
inductive Inst where
  /-- Takes a character of a set. -/
  | consume (s : CharSet)
  /-- Goes on where a condition holds. -/
  | look (l : Look)
  /-- Notes the place under a number. -/
  | save (slot : Nat)
  /-- Goes on at an address. -/
  | jump (target : Nat)
  /-- Goes on at the first address, and at the second one when that fails. -/
  | split (first second : Nat)
  /-- The match is complete. -/
  | accept
  deriving DecidableEq, Repr

namespace Regex

/-- How many instructions an expression takes. -/
def size : Regex → Nat
  | empty => 0
  | chars _ => 1
  | look _ => 1
  | cat a b => a.size + b.size
  | alt a b => a.size + b.size + 2
  | plus _ a => a.size + 1
  | group _ a => a.size + 2

/-- The instructions of an expression that stands at an address. -/
def code : Regex → Nat → List Inst
  | empty, _ => []
  | chars s, _ => [.consume s]
  | look l, _ => [.look l]
  | cat a b, base => a.code base ++ b.code (base + a.size)
  | alt a b, base =>
    .split (base + 1) (base + a.size + 2) ::
      (a.code (base + 1) ++ .jump (base + a.size + b.size + 2) :: b.code (base + a.size + 2))
  | plus greedy a, base =>
    let next := base + a.size + 1
    a.code base ++ [if greedy then .split base next else .split next base]
  | group i a, base => .save (2 * i) :: (a.code (base + 1) ++ [.save (2 * i + 1)])

/-- The expression that finds the leftmost match of another: it skips as few characters as
possible, then matches, and remembers the match as group 0. -/
def searching (r : Regex) : Regex := cat (star false (chars CharSet.univ)) (group 0 r)

end Regex

/-- A laid out expression. -/
structure Program where
  /-- The instructions. -/
  insts : Array Inst

/-- The program that searches for an expression. -/
def Program.ofRegex (r : Regex) : Program := ⟨(r.searching.code 0 ++ [Inst.accept]).toArray⟩

/-- One way through a program: the next instruction, the place in the text, and the noted
places, the latest first. -/
structure Thread where
  /-- The address of the next instruction. -/
  pc : Nat
  /-- The place in the text. -/
  pos : Nat
  /-- The noted places, by slot. -/
  saves : List (Nat × Nat)
  deriving DecidableEq, Repr

namespace Program

/-- The character before a place. -/
def before (text : Array Char) (pos : Nat) : Option Char := if pos = 0 then none else text[pos - 1]?

/-- The ways to go on from a thread, the preferred one first. -/
def next (text : Array Char) (t : Thread) : Inst → List Thread
  | .consume s =>
    match text[t.pos]? with
    | some c => if s.has c then [{ t with pc := t.pc + 1, pos := t.pos + 1 }] else []
    | none => []
  | .look l =>
    if l.holds (before text t.pos) text[t.pos]? then [{ t with pc := t.pc + 1 }] else []
  | .save slot => [{ t with pc := t.pc + 1, saves := (slot, t.pos) :: t.saves }]
  | .jump target => [{ t with pc := target }]
  | .split first second => [{ t with pc := first }, { t with pc := second }]
  | .accept => []

/-- The number of a thread's instruction and place together. -/
def key (p : Program) (t : Thread) : Nat := t.pos * p.insts.size + t.pc

/-- Follows the threads, the first one first, until one accepts. A thread ends where its
instruction has been visited before at its place. -/
def run (p : Program) (text : Array Char) :
    Nat → Std.HashSet Nat → List Thread → Option Thread
  | 0, _, _ => none
  | _ + 1, _, [] => none
  | budget + 1, visited, t :: rest =>
    if visited.contains (p.key t) then run p text budget visited rest
    else
      match p.insts[t.pc]? with
      | none => run p text budget visited rest
      | some .accept => some t
      | some inst => run p text budget (visited.insert (p.key t)) (next text t inst ++ rest)

/-- Enough steps for every instruction at every place: each is entered once and leaves at most
two threads. -/
def budget (p : Program) (text : Array Char) : Nat := 2 * (p.insts.size + 1) * (text.size + 1) + 2

/-- The leftmost match from a place on, and of those that start there the preferred one. -/
def search? (p : Program) (text : Array Char) (start : Nat) : Option Thread :=
  run p text (p.budget text) {} [⟨0, start, []⟩]

end Program

/-- A match, by the noted places. -/
structure Match where
  /-- The noted places, by slot, the latest first. -/
  saves : List (Nat × Nat)
  deriving DecidableEq, Repr

namespace Match

/-- The place noted under a number. -/
def place? (m : Match) (slot : Nat) : Option Nat := (m.saves.find? fun s => s.1 = slot).map (·.2)

/-- Where a group's match begins and ends, if the group took part. -/
def group? (m : Match) (i : Nat) : Option (Nat × Nat) :=
  match m.place? (2 * i), m.place? (2 * i + 1) with
  | some a, some b => some (a, b)
  | _, _ => none

/-- Where the whole match begins and ends. -/
def span (m : Match) : Nat × Nat := (m.group? 0).getD (0, 0)

end Match

namespace Program

/-- The match that a search from a place on finds. -/
def matchFrom? (p : Program) (text : Array Char) (start : Nat) : Option Match :=
  if text.size < start then none else (p.search? text start).map fun t => ⟨t.saves⟩

/-- The matches from a place on. Each search begins where the match before ended. An empty
match right there is no new match: the search begins anew one character on. -/
def matchesFrom (p : Program) (text : Array Char) :
    Nat → Nat → Option Nat → List Match
  | 0, _, _ => []
  | budget + 1, start, last =>
    let found :=
      match p.matchFrom? text start with
      | none => none
      | some m =>
        if m.span.1 = m.span.2 ∧ some m.span.2 = last then p.matchFrom? text (start + 1) else some m
    match found with
    | none => []
    | some m => m :: matchesFrom p text budget m.span.2 (some m.span.2)

/-- The successive matches of a text, which do not overlap. -/
def allMatches (p : Program) (text : Array Char) : List Match :=
  matchesFrom p text (2 * text.size + 3) 0 none

end Program

end LintVerdict.Pattern
