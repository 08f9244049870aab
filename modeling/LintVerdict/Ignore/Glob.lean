import LintVerdict.Pattern.Program
import LintVerdict.Text.Bytes

/-!
# Globs

A glob describes paths: a question mark and a star stand for parts of a name, two stars for any
number of names, brackets for one of some characters, braces for alternatives. A path is matched
byte by byte, so that a question mark stands for one byte.

## Main definitions

* `GlobToken`: the parts of a glob.
* `Glob.parse`: reads a glob, or tells its first fault.
* `Glob.accepts`: whether a path fits a glob.
-/

namespace LintVerdict

open Pattern (CharSet Regex Program)

/-- Why a glob cannot be used. -/
inductive GlobError where
  /-- The bounds of a range are in the wrong order. -/
  | invalidRange (first last : Char)
  /-- A closing brace has no opening one. -/
  | unopened
  /-- An opening brace has no closing one. -/
  | unclosed
  /-- A backslash stands last. -/
  | danglingEscape
  deriving DecidableEq, Repr

/-- The message of a glob error. -/
def GlobError.message : GlobError → String
  | invalidRange first last =>
    "invalid range; '" ++ first.toString ++ "' > '" ++ last.toString ++ "'"
  | unopened =>
    "unopened alternate group; missing '\x7b' (maybe escape '\x7d' with '[\x7d]'?)"
  | unclosed =>
    "unclosed alternate group; missing '\x7d' (maybe escape '\x7b' with '[\x7b]'?)"
  | danglingEscape => "dangling '\\'"

/-- A part of a glob. -/
inductive GlobToken where
  /-- A character that stands for itself. -/
  | literal (c : Char)
  /-- One byte of a name. -/
  | any
  /-- Any part of a name. -/
  | anyRun
  /-- Any directories before what follows, or none. -/
  | leading
  /-- Everything below what comes before. -/
  | trailing
  /-- Any directories between two parts, or none. -/
  | between
  /-- One byte that is in some ranges, or in none of them. -/
  | choice (negated : Bool) (ranges : List (Char × Char))
  /-- One of several globs. -/
  | alternates (branches : List (List GlobToken))

/-- A glob. -/
structure Glob where
  /-- Its parts. -/
  tokens : List GlobToken
  /-- The program that matches the bytes of a path. -/
  program : Program

namespace Glob

/-!
### Reading
-/

/-- The last range with a new upper bound. -/
def closeRange (c : Char) : List (Char × Char) → Except GlobError (List (Char × Char))
  | [] => .ok [(c, c)]
  | (a, _) :: rest => if c < a then .error (.invalidRange a c) else .ok ((a, c) :: rest)

/-- Reads the ranges between brackets, those read so far in reverse order; nothing when the
closing bracket is missing. A closing bracket that stands first belongs to the ranges, and so
does a dash that stands first or last. -/
def readRanges (acc : List (Char × Char)) (first inRange : Bool) :
    List Char → Except GlobError (Option (List (Char × Char) × List Char))
  | [] => .ok none
  | c :: rest =>
    if c = ']' && !first then
      .ok (some ((if inRange then ('-', '-') :: acc else acc).reverse, rest))
    else if c = '-' && !first && !inRange then readRanges acc false true rest
    else if inRange then do
      let acc ← closeRange c acc
      readRanges acc false false rest
    else readRanges ((c, c) :: acc) false false rest

/-- Reads what stands between brackets. -/
def readChoice (cs : List Char) : Except GlobError (Option (GlobToken × List Char)) := do
  let (negated, cs) := match cs with
    | '!' :: rest => (true, rest)
    | '^' :: rest => (true, rest)
    | _ => (false, cs)
  return (← readRanges [] true false cs).map fun (ranges, rest) => (.choice negated ranges, rest)

/-- An alternative that is being read: the parts before the brace and the finished branches,
both in reverse order. -/
structure OpenGroup where
  /-- The parts before the brace. -/
  before : List GlobToken
  /-- The finished branches. -/
  branches : List (List GlobToken)

/-- A glob that is being read. -/
structure Draft where
  /-- The parts of the current branch, in reverse order. -/
  tokens : List GlobToken
  /-- The open braces, the innermost first. -/
  groups : List OpenGroup
  /-- The character read last. -/
  last : Option Char
  /-- Whether brackets stand for themselves, as they do once one was left open. -/
  plainBrackets : Bool

namespace Draft

/-- The draft with one more part. -/
def push (d : Draft) (t : GlobToken) (last : Char) : Draft :=
  { d with tokens := t :: d.tokens, last := some last }

/-- The draft inside one more brace. -/
def openGroup (d : Draft) : Draft :=
  { d with tokens := [], groups := ⟨d.tokens, []⟩ :: d.groups, last := some '\x7b' }

/-- The draft after the innermost brace. -/
def closeGroup (d : Draft) : Except GlobError Draft :=
  match d.groups with
  | [] => .error .unopened
  | g :: rest =>
    let branches := (d.tokens.reverse :: g.branches).reverse
    .ok { d with tokens := .alternates branches :: g.before, groups := rest, last := some '\x7d' }

/-- The draft after a comma, which separates branches inside braces only. -/
def comma (d : Draft) : Draft :=
  match d.groups with
  | [] => d.push (.literal ',') ','
  | g :: rest =>
    { d with
      tokens := []
      groups := { g with branches := d.tokens.reverse :: g.branches } :: rest
      last := some ',' }

/-- The draft after two stars that are no whole name: they stand for part of one. -/
def twoStars (d : Draft) : Draft := (d.push .anyRun '*').push .anyRun '*'

/-- The draft with two stars in place of the part read last, the slash before them. Two stars
after two stars add nothing. -/
def deep (d : Draft) (t : GlobToken) (last : Char) : Draft :=
  match d.tokens with
  | .leading :: _ => { d with last := some last }
  | .trailing :: _ => { d with last := some last }
  | _ :: rest => { d with tokens := t :: rest, last := some last }
  | [] => d.push t last

/-- Whether two stars may be a whole name, by what stands before them. -/
def atNameStart (d : Draft) : Bool :=
  d.last = some '/' || (!d.groups.isEmpty && (d.last = some ',' || d.last = some '\x7b'))

/-- Reads on from behind two stars. -/
def stars (d : Draft) (cs : List Char) : Draft × List Char :=
  match d.tokens, cs with
  | [], [] => (d.push .leading '*', [])
  | [], '/' :: rest => (d.push .leading '/', rest)
  | [], _ => (d.twoStars, cs)
  | _, _ =>
    if !d.atNameStart then (d.twoStars, cs)
    else
      match cs with
      | [] => (d.deep .trailing '*', [])
      | '/' :: rest => (d.deep .between '/', rest)
      | c :: _ =>
        if !d.groups.isEmpty && (c = ',' || c = '\x7d') then (d.deep .trailing '*', cs)
        else (d.twoStars, cs)

end Draft

/-- Reads a glob. -/
def readTokens : Nat → Draft → List Char → Except GlobError (List GlobToken)
  | 0, _, _ => .error .unclosed
  | _, d, [] => if d.groups.isEmpty then .ok d.tokens.reverse else .error .unclosed
  | budget + 1, d, c :: rest =>
    if c = '?' then readTokens budget (d.push .any c) rest
    else if c = '*' then
      match rest with
      | '*' :: rest =>
        let (d, rest) := d.stars rest
        readTokens budget d rest
      | _ => readTokens budget (d.push .anyRun c) rest
    else if c = '[' && !d.plainBrackets then
      match readChoice rest with
      | .error e => .error e
      | .ok (some (t, rest)) => readTokens budget (d.push t ']') rest
      | .ok none => readTokens budget { d.push (.literal '[') '[' with plainBrackets := true } rest
    else if c = '\x7b' then readTokens budget d.openGroup rest
    else if c = '\x7d' then
      match d.closeGroup with
      | .error e => .error e
      | .ok d => readTokens budget d rest
    else if c = ',' then readTokens budget d.comma rest
    else if c = '\\' then
      match rest with
      | [] => .error .danglingEscape
      | c :: rest => readTokens budget (d.push (.literal c) c) rest
    else readTokens budget (d.push (.literal c) c) rest

/-!
### Matching
-/

/-- The numbers of the bytes of a character. -/
def bytesOf (c : Char) : List Nat := (String.utf8EncodeChar c).map UInt8.toNat

/-- The bytes that a range of characters stands for: those of the first bound, those of the
last, and those between the bytes where the bounds meet. -/
def byteRanges : Char × Char → List (Nat × Nat)
  | (a, b) =>
    let lower := bytesOf a
    let upper := bytesOf b
    if a = b then lower.map fun n => (n, n)
    else
      (lower.dropLast ++ upper.drop 1).map (fun n => (n, n)) ++
        [(lower.getLast?.getD 0, upper.head?.getD 0)]

/-- All bytes but the slash. -/
def notSlash : CharSet := (CharSet.single '/').complement

/-- One expression after another. -/
def sequence : List Regex → Regex
  | [] => .empty
  | [r] => r
  | r :: rest => .cat r (sequence rest)

/-- One expression or another. -/
def oneOf : List Regex → Regex
  | [] => .empty
  | [r] => r
  | r :: rest => .alt r (oneOf rest)

/-- Any bytes. -/
def anything : Regex := Regex.star true (.chars .univ)

/-- A slash. -/
def slash : Regex := .chars (CharSet.single '/')

mutual

/-- The expressions that a part stands for, one after another. -/
def tokenRegex : GlobToken → List Regex
  | .literal c => (bytesOf c).map fun n => .chars ⟨[(n, n)]⟩
  | .any => [.chars notSlash]
  | .anyRun => [Regex.star true (.chars notSlash)]
  | .leading => [.alt (Regex.optional true slash) (.cat anything slash)]
  | .trailing => [slash, anything]
  | .between => [.alt slash (sequence [slash, anything, slash])]
  | .choice negated ranges =>
    [.chars (CharSet.negateIf negated (CharSet.ofRanges (ranges.flatMap byteRanges)))]
  | .alternates branches =>
    match branchRegexes branches with
    | [] => []
    | r :: rest => [oneOf (r :: rest)]

/-- The expressions of some parts, one after another. -/
def tokensRegex : List GlobToken → List Regex
  | [] => []
  | t :: rest => tokenRegex t ++ tokensRegex rest

/-- The expressions of branches, empty ones left out. -/
def branchRegexes : List (List GlobToken) → List Regex
  | [] => []
  | b :: rest =>
    match tokensRegex b with
    | [] => branchRegexes rest
    | r :: more => sequence (r :: more) :: branchRegexes rest

end

/-- The expression of a whole glob. Two stars alone fit every path. -/
def wholeRegex : List GlobToken → Regex
  | [.leading] => .empty
  | tokens => sequence ([.look .textStart] ++ tokensRegex tokens ++ [.look .textEnd])

/-- Reads a glob. -/
def parse (glob : String) : Except GlobError Glob := do
  let cs := glob.toList
  let tokens ← readTokens (cs.length + 1) ⟨[], [], none, false⟩ cs
  return ⟨tokens, Program.ofRegex (wholeRegex tokens)⟩

/-- Whether a path fits a glob. -/
def accepts (g : Glob) (path : SystemText) : Bool :=
  (g.program.search? path.toList.toArray 0).isSome

end Glob

end LintVerdict
