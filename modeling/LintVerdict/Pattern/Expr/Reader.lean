import LintVerdict.Decimal.Numeral
import LintVerdict.Pattern.Expr
import LintVerdict.Unicode.Category
import LintVerdict.Unicode.Property

/-!
# Reading a pattern

The reader goes through a pattern from left to right. Open groups stand on a stack; every
round of the main loop takes at least one character, so the pattern's length bounds it.

## Main definitions

* `ReadPattern`: a pattern with the names of its groups.
* `ReadPattern.ofText?`: reads a pattern, `none` when it is not well formed.
-/

namespace LintVerdict.Pattern

open Decimal (isDigit readDigits)
open Text (isBlank)

/-- A pattern that has been read. -/
structure ReadPattern where
  /-- The pattern. -/
  expr : Expr
  /-- The named groups with their numbers. -/
  names : List (String × Nat)
  deriving DecidableEq, Repr

namespace Reader

/-- The rest of a pattern without the blanks and comments at its start. The flag says that it
begins inside a comment. -/
def dropSpace : Bool → List Char → List Char
  | _, [] => []
  | true, c :: cs => dropSpace (c ≠ '\n') cs
  | false, c :: cs =>
    if isBlank c then dropSpace false cs else if c = '#' then dropSpace true cs else c :: cs

/-- The rest of a pattern, without blanks and comments if they do not count. -/
def skip (free : Bool) (cs : List Char) : List Char := if free then dropSpace false cs else cs

/-- A number with blanks around it, below `2 ^ 32`. -/
def number? (cs : List Char) : Option (Nat × List Char) :=
  match (cs.dropWhile isBlank).span isDigit with
  | ([], _) => none
  | (ds, rest) =>
    let n := readDigits 0 ds
    if n < Decimal.word32 then some (n, rest.dropWhile isBlank) else none

/-- The mark of a lazy repetition, if it is there. -/
def greed (cs : List Char) : Bool × List Char :=
  match cs with
  | '?' :: rest => (false, rest)
  | _ => (true, cs)

/-- The bounds of a counted repetition after its opening brace, and whether it is greedy. -/
def counts? (free : Bool) (cs : List Char) : Option (Nat × Option Nat × Bool × List Char) := do
  let (lo, cs) ← number? (skip free cs)
  match cs with
  | '\x7d' :: rest =>
    let (greedy, rest) := greed (skip free rest)
    return (lo, some lo, greedy, rest)
  | ',' :: rest =>
    match skip free rest with
    | '\x7d' :: rest =>
      let (greedy, rest) := greed (skip free rest)
      return (lo, none, greedy, rest)
    | cs =>
      let (hi, cs) ← number? cs
      match cs with
      | '\x7d' :: rest =>
        if lo ≤ hi then
          let (greedy, rest) := greed (skip free rest)
          return (lo, some hi, greedy, rest)
        else none
      | _ => none
  | _ => none

/-- The value of a hexadecimal digit. -/
def hexValue? (c : Char) : Option Nat :=
  let n := c.toNat
  if 48 ≤ n ∧ n ≤ 57 then some (n - 48)
  else if 97 ≤ n ∧ n ≤ 102 then some (n - 87)
  else if 65 ≤ n ∧ n ≤ 70 then some (n - 55)
  else none

/-- The character of a code point, if it is one. -/
def scalar? (n : Nat) : Option Char := if n.isValidChar then some (Char.ofNat n) else none

/-- A fixed number of hexadecimal digits. -/
def fixedHex? (free : Bool) : Nat → Nat → List Char → Option (Nat × List Char)
  | 0, n, cs => some (n, cs)
  | _ + 1, _, [] => none
  | k + 1, n, c :: cs => do
    let d ← hexValue? c
    let rest := skip free cs
    if k ≠ 0 ∧ rest.isEmpty then none else fixedHex? free k (16 * n + d) rest

/-- Hexadecimal digits up to a closing brace. -/
def bracedHex? (free : Bool) : Nat → Nat → List Char → List Char → Option (Nat × List Char)
  | 0, _, _, _ => none
  | budget + 1, n, seen, cs =>
    match skip free cs with
    | [] => none
    | '\x7d' :: rest => if seen.isEmpty then none else some (n, skip free rest)
    | c :: rest => do
      let d ← hexValue? c
      let n := 16 * n + d
      if n < Decimal.word32 then bracedHex? free budget n (c :: seen) rest else none

/-- A character by its code, after the letter that says how it is written. -/
def hexChar? (free : Bool) (digits : Nat) (cs : List Char) :
    Option (Char × Bool × List Char) := do
  match skip free cs with
  | [] => none
  | '\x7b' :: rest =>
    let (n, rest) ← bracedHex? free (rest.length + 1) 0 [] rest
    return (← scalar? n, false, rest)
  | cs =>
    let (n, rest) ← fixedHex? free digits 0 cs
    return (← scalar? n, digits = 2, rest)

/-- The text up to a closing brace. -/
def bracedText? (free : Bool) : Nat → List Char → List Char → Option (List Char × List Char)
  | 0, _, _ => none
  | budget + 1, acc, cs =>
    match skip free cs with
    | [] => none
    | '\x7d' :: rest => some (acc.reverse, rest)
    | c :: rest => bracedText? free budget (c :: acc) rest

/-- The parts of a text around the first place where a condition holds of it. -/
def breakAt (at? : List Char → Option (List Char)) : List Char → Option (List Char × List Char)
  | [] => none
  | c :: cs =>
    match at? (c :: cs) with
    | some rest => some ([], rest)
    | none => (breakAt at? cs).map fun (a, b) => (c :: a, b)

/-- The query that stands between the braces of a property, with whether it is negated. -/
def query (cs : List Char) : Bool × PropertyQuery :=
  let valued (p : List Char × List Char) : PropertyQuery :=
    .valued (String.ofList p.1) (String.ofList p.2)
  match breakAt (fun | '!' :: '=' :: rest => some rest | _ => none) cs with
  | some p => (true, valued p)
  | none =>
    match breakAt (fun | ':' :: rest => some rest | _ => none) cs with
    | some p => (false, valued p)
    | none =>
      match breakAt (fun | '=' :: rest => some rest | _ => none) cs with
      | some p => (false, valued p)
      | none => (false, .named (String.ofList cs))

/-- A property after its letter. -/
def property? (free negated : Bool) (cs : List Char) : Option (ClassExpr × List Char) := do
  match skip free cs with
  | [] => none
  | '\x7b' :: rest =>
    let (text, rest) ← bracedText? free (rest.length + 1) [] rest
    let (notEqual, q) := query text
    return (.property (negated != notEqual) q, rest)
  | c :: rest =>
    if c = '\\' then none
    else return (.property negated (.named (String.ofList [c])), skip free rest)

/-- What an escape or a plain character stands for. -/
inductive Atom where
  /-- A character. -/
  | char (c : Char) (byte : Bool)
  /-- A set of characters. -/
  | cls (s : ClassExpr)
  /-- A condition on the place. -/
  | assertion (a : Assertion)
  deriving DecidableEq, Repr

/-- The pattern that an atom is. -/
def Atom.expr : Atom → Expr
  | char c byte => .char c byte
  | cls s => .cls s
  | assertion a => .assertion a

/-- Characters with a meaning in patterns. -/
def isMeta (c : Char) : Bool := "\\.+*?()|[]\x7b\x7d^$#&-~".toList.contains c

/-- Characters that stand for themselves after a backslash: all of ASCII but letters, digits
and the two angle brackets. -/
def isEscapable (c : Char) : Bool :=
  isMeta c || (c.toNat < 128 && !c.isAlphanum && c ≠ '<' && c ≠ '>')

/-- A character that may stand in the name of a word condition. -/
def isWordName (c : Char) : Bool := c.isAlpha || c = '-'

/-- The characters of a word condition's name. -/
def wordName (free : Bool) : Nat → List Char → List Char → List Char × List Char
  | 0, acc, cs => (acc.reverse, cs)
  | _ + 1, acc, [] => (acc.reverse, [])
  | budget + 1, acc, c :: cs =>
    if isWordName c then wordName free budget (c :: acc) (skip free cs) else (acc.reverse, c :: cs)

/-- The edge of a word, with the name in braces that may follow. Braces that do not begin with
a letter belong to a repetition. -/
def wordEdge? (free : Bool) (cs : List Char) : Option (Assertion × List Char) :=
  match cs with
  | '\x7b' :: rest =>
    match skip free rest with
    | [] => none
    | c :: rest' =>
      if isWordName c then
        match wordName free (rest'.length + 2) [] (c :: rest') with
        | (name, '\x7d' :: rest) =>
          match String.ofList name with
          | "start" => some (.wordStart, rest)
          | "end" => some (.wordEnd, rest)
          | "start-half" => some (.noWordBefore, rest)
          | "end-half" => some (.noWordAfter, rest)
          | _ => none
        | _ => none
      else some (.wordEdge, cs)
  | _ => some (.wordEdge, cs)

/-- What stands after a backslash. -/
def escape? (free : Bool) : List Char → Option (Atom × List Char)
  | [] => none
  | c :: rest =>
    match c with
    | 'x' => (hexChar? free 2 rest).map fun (c, byte, rest) => (.char c byte, rest)
    | 'u' => (hexChar? free 4 rest).map fun (c, byte, rest) => (.char c byte, rest)
    | 'U' => (hexChar? free 8 rest).map fun (c, byte, rest) => (.char c byte, rest)
    | 'p' => (property? free false rest).map fun (s, rest) => (.cls s, rest)
    | 'P' => (property? free true rest).map fun (s, rest) => (.cls s, rest)
    | 'd' => some (.cls (.letter false .digit), rest)
    | 'D' => some (.cls (.letter true .digit), rest)
    | 's' => some (.cls (.letter false .space), rest)
    | 'S' => some (.cls (.letter true .space), rest)
    | 'w' => some (.cls (.letter false .word), rest)
    | 'W' => some (.cls (.letter true .word), rest)
    | 'a' => some (.char '\x07' false, rest)
    | 'f' => some (.char '\x0c' false, rest)
    | 't' => some (.char '\t' false, rest)
    | 'n' => some (.char '\n' false, rest)
    | 'r' => some (.char '\r' false, rest)
    | 'v' => some (.char '\x0b' false, rest)
    | 'A' => some (.assertion .textStart, rest)
    | 'z' => some (.assertion .textEnd, rest)
    | 'b' => (wordEdge? free rest).map fun (a, rest) => (.assertion a, rest)
    | 'B' => some (.assertion .notWordEdge, rest)
    | '<' => some (.assertion .wordStart, rest)
    | '>' => some (.assertion .wordEnd, rest)
    | c => if isEscapable c then some (.char c false, rest) else none

/-- The ranges of a named ASCII class. -/
def asciiClass? : String → Option (List (Nat × Nat))
  | "alnum" => some [(48, 57), (65, 90), (97, 122)]
  | "alpha" => some [(65, 90), (97, 122)]
  | "ascii" => some [(0, 127)]
  | "blank" => some [(9, 9), (32, 32)]
  | "cntrl" => some [(0, 31), (127, 127)]
  | "digit" => some [(48, 57)]
  | "graph" => some [(33, 126)]
  | "lower" => some [(97, 122)]
  | "print" => some [(32, 126)]
  | "punct" => some [(33, 47), (58, 64), (91, 96), (123, 126)]
  | "space" => some [(9, 13), (32, 32)]
  | "upper" => some [(65, 90)]
  | "word" => some [(48, 57), (65, 90), (95, 95), (97, 122)]
  | "xdigit" => some [(48, 57), (65, 70), (97, 102)]
  | _ => none

/-- A named ASCII class after its opening bracket. Brackets that hold no such name are an
ordinary set. -/
def namedClass? (cs : List Char) : Option (ClassExpr × List Char) :=
  match cs with
  | ':' :: rest =>
    let (negated, rest) :=
      match rest with
      | '^' :: rest => (true, rest)
      | _ => (false, rest)
    match rest.span (· ≠ ':') with
    | (name, ':' :: ']' :: rest) =>
      (asciiClass? (String.ofList name)).map fun rs => (.ascii negated rs, rest)
    | _ => none
  | _ => none

/-- The next character that counts when blanks do not, a comment's mark passed over once. -/
def peekFree : Bool → List Char → Option Char
  | _, [] => none
  | passed, c :: cs =>
    if isBlank c then peekFree passed cs
    else if !passed && c = '#' then peekFree true cs
    else some c

/-- The character after the next one. -/
def peek (free : Bool) : List Char → Option Char
  | [] => none
  | _ :: cs => if free then peekFree false cs else cs.head?

/-- One member of a set, before it is known whether it begins a range. -/
def classAtom? (free : Bool) : List Char → Option (Atom × List Char)
  | [] => none
  | '\\' :: rest => escape? free rest
  | c :: rest => some (.char c false, rest)

/-- A member of a set on its own. -/
def Atom.member? : Atom → Option ClassExpr
  | char c byte => some (.char c byte)
  | cls s => some s
  | assertion _ => none

/-- A member or a range of a set. A hyphen right before the closing bracket or before another
hyphen makes no range. -/
def classRange? (free : Bool) (cs : List Char) : Option (ClassExpr × List Char) := do
  let (first, cs) ← classAtom? free cs
  let cs := skip free cs
  match cs with
  | [] => none
  | '-' :: rest =>
    let ahead := peek free cs
    if ahead = some ']' || ahead = some '-' then return (← first.member?, cs)
    else
      let rest := skip free rest
      let (second, rest) ← classAtom? free rest
      match first, second with
      | .char lo _, .char hi _ => if lo ≤ hi then return (.range lo hi, rest) else none
      | _, _ => none
  | _ => return (← first.member?, cs)

/-- The operators between sets. -/
inductive ClassOp where
  /-- Two ampersands. -/
  | inter
  /-- Two hyphens. -/
  | diff
  /-- Two tildes. -/
  | symmDiff
  deriving DecidableEq, Repr

/-- An operator applied to its operands. -/
def ClassOp.apply : ClassOp → ClassExpr → ClassExpr → ClassExpr
  | inter => .inter
  | diff => .diff
  | symmDiff => .symmDiff

/-- The set of some members, given from the last one to the first one. -/
def members (rev : List ClassExpr) : ClassExpr :=
  match rev with
  | [] => .empty
  | s :: rest => rest.foldl (fun acc t => .union t acc) s

/-- The operand that just ended, joined to what stands before its operator. -/
def closeOp (pending : Option (ClassOp × ClassExpr)) (rev : List ClassExpr) : ClassExpr :=
  match pending with
  | none => members rev
  | some (op, lhs) => op.apply lhs (members rev)

/-- The hyphens at the start of a set, which stand for themselves. -/
def leadingHyphens (free : Bool) : Nat → List ClassExpr → List Char → List ClassExpr × List Char
  | 0, acc, cs => (acc, cs)
  | budget + 1, acc, cs =>
    match cs with
    | '-' :: rest => leadingHyphens free budget (.char '-' false :: acc) (skip free rest)
    | _ => (acc, cs)

mutual

/-- A set in brackets after its opening bracket. -/
def bracket? (free : Bool) : Nat → List Char → Option (ClassExpr × List Char)
  | 0, _ => none
  | budget + 1, cs =>
    let cs := skip free cs
    let (negated, cs) :=
      match cs with
      | '^' :: rest => (true, skip free rest)
      | _ => (false, cs)
    let (first, cs) := leadingHyphens free cs.length [] cs
    let (first, cs) :=
      match first, cs with
      | [], ']' :: rest => ([.char ']' false], skip free rest)
      | _, _ => (first, cs)
    (classItems? free budget none first cs).map fun (s, rest) => (.bracket negated s, rest)

/-- The members of a set up to its closing bracket: the operator that waits for its second
operand, and the members of the present operand, the last one first. -/
def classItems? (free : Bool) :
    Nat → Option (ClassOp × ClassExpr) → List ClassExpr → List Char →
      Option (ClassExpr × List Char)
  | 0, _, _, _ => none
  | budget + 1, pending, rev, cs =>
    match skip free cs with
    | [] => none
    | ']' :: rest => some (closeOp pending rev, rest)
    | '&' :: '&' :: rest => classItems? free budget (some (.inter, closeOp pending rev)) [] rest
    | '-' :: '-' :: rest => classItems? free budget (some (.diff, closeOp pending rev)) [] rest
    | '~' :: '~' :: rest => classItems? free budget (some (.symmDiff, closeOp pending rev)) [] rest
    | '[' :: rest =>
      match namedClass? rest with
      | some (s, rest) => classItems? free budget pending (s :: rev) rest
      | none =>
        match bracket? free budget rest with
        | some (s, rest) => classItems? free budget pending (s :: rev) rest
        | none => none
    | cs =>
      match classRange? free cs with
      | some (s, rest) => classItems? free budget pending (s :: rev) rest
      | none => none

end

/-- The letters of a flag group, up to the colon or the closing parenthesis, which stays. A
letter occurs once, and so does the minus sign, which is not last. -/
def flags? : Nat → List (Option Flag) → List Char → Option (List (Option Flag) × List Char)
  | 0, _, _ => none
  | _ + 1, _, [] => none
  | budget + 1, acc, c :: cs =>
    if c = ':' || c = ')' then
      if acc.head? = some none then none else some (acc.reverse, c :: cs)
    else
      let item? : Option (Option Flag) := if c = '-' then some none else (Flag.ofChar? c).map some
      match item? with
      | none => none
      | some item => if acc.contains item then none else flags? budget (item :: acc) cs

/-- The change that flag letters ask for: those after the minus sign are turned off. -/
def change (items : List (Option Flag)) : FlagChange :=
  let (on, off) := items.span Option.isSome
  on.filterMap (fun f => f.map (·, true)) ++ off.filterMap (fun f => f.map (·, false))

/-- Alphabetic characters. -/
def alphabetic : CharSet := ⟨(Unicode.propertyRanges? "alphabetic").getD []⟩

/-- Characters of the categories of numbers. -/
def numeric : CharSet := ⟨Unicode.categoryRanges ["Nd", "Nl", "No"]⟩

/-- Whether a character may stand in the name of a group. -/
def isNameChar (first : Bool) (c : Char) : Bool :=
  c = '_' || alphabetic.has c ||
    (!first && (c = '.' || c = '[' || c = ']' || numeric.has c))

/-- Whether a text may name a group. -/
def isName : List Char → Bool
  | [] => false
  | c :: cs => isNameChar true c && cs.all (isNameChar false)

/-- An open group: how it closes, and what stands before it. -/
structure Frame where
  /-- Makes the group of its content. -/
  close : Expr → Expr
  /-- The finished alternatives before the group, the last one first. -/
  alts : List Expr
  /-- The parts of the present alternative before the group, the last one first. -/
  items : List Expr
  /-- Whether blanks count outside the group. -/
  free : Bool

/-- What has been read so far. -/
structure Draft where
  /-- The open groups, the innermost first. -/
  stack : List Frame
  /-- The finished alternatives of the innermost group, the last one first. -/
  alts : List Expr
  /-- The parts of the present alternative, the last one first. -/
  items : List Expr
  /-- Whether blanks and comments are left out. -/
  free : Bool
  /-- How many groups have numbers. -/
  groups : Nat
  /-- The named groups. -/
  names : List (String × Nat)

namespace Draft

/-- Nothing read yet. -/
def start : Draft := ⟨[], [], [], false, 0, []⟩

/-- The content of the innermost group. -/
def content (d : Draft) : Expr := .choice ((Expr.sequence d.items.reverse :: d.alts).reverse)

/-- The draft with one more part. -/
def push (d : Draft) (e : Expr) : Draft := { d with items := e :: d.items }

/-- The draft with a group opened. -/
def opened (d : Draft) (close : Expr → Expr) (free : Bool) : Draft :=
  { d with
    stack := ⟨close, d.alts, d.items, d.free⟩ :: d.stack
    alts := []
    items := []
    free := free }

/-- The draft with a numbered group opened. -/
def openedGroup (d : Draft) : Draft :=
  { d.opened (.group (d.groups + 1)) d.free with groups := d.groups + 1 }

/-- The draft with the innermost group closed. -/
def closed? (d : Draft) : Option Draft :=
  match d.stack with
  | [] => none
  | f :: rest =>
    some { d with
      stack := rest
      alts := f.alts
      items := f.close d.content :: f.items
      free := f.free }

/-- The draft with its last part repeated. Flags and nothing cannot be repeated. -/
def repeated? (d : Draft) (min : Nat) (max : Option Nat) (greedy : Bool) : Option Draft :=
  match d.items with
  | [] => none
  | .flags _ :: _ => none
  | .empty :: _ => none
  | e :: rest => some { d with items := .repeated min max greedy e :: rest }

/-- The draft after a named group's opening, where its name begins. -/
def named? (d : Draft) (cs : List Char) : Option (Draft × List Char) :=
  match cs.span (· ≠ '>') with
  | (name, '>' :: rest) =>
    let s := String.ofList name
    if isName name && !d.names.any (fun n => n.1 = s) then
      some ({ d.openedGroup with names := d.names ++ [(s, d.groups + 1)] }, rest)
    else none
  | _ => none

/-- The flag for blanks after a change. -/
def freeAfter (free : Bool) (c : FlagChange) : Bool :=
  match c.find? fun f => f.1 = .ignoreSpace with
  | some (_, b) => b
  | none => free

/-- The draft after an opening parenthesis. -/
def open? (d : Draft) (cs : List Char) : Option (Draft × List Char) :=
  match skip d.free cs with
  | '?' :: '=' :: _ => none
  | '?' :: '!' :: _ => none
  | '?' :: '<' :: '=' :: _ => none
  | '?' :: '<' :: '!' :: _ => none
  | '?' :: 'P' :: '<' :: rest => d.named? rest
  | '?' :: '<' :: rest => d.named? rest
  | '?' :: rest => do
    let (items, rest) ← flags? (rest.length + 1) [] rest
    let c := change items
    match rest with
    | ')' :: rest =>
      if items.isEmpty then none
      else some ({ d.push (.flags c) with free := freeAfter d.free c }, rest)
    | _ :: rest => some (d.opened (.flagged c) (freeAfter d.free c), rest)
    | [] => none
  | cs => some (d.openedGroup, cs)

end Draft

/-- Reads a pattern on from a draft. -/
def loop : Nat → Draft → List Char → Option Draft
  | 0, _, _ => none
  | budget + 1, d, cs =>
    match skip d.free cs with
    | [] => some d
    | '(' :: rest =>
      match d.open? rest with
      | some (d, rest) => loop budget d rest
      | none => none
    | ')' :: rest =>
      match d.closed? with
      | some d => loop budget d rest
      | none => none
    | '|' :: rest =>
      loop budget { d with alts := Expr.sequence d.items.reverse :: d.alts, items := [] } rest
    | '[' :: rest =>
      match bracket? d.free (2 * rest.length + 2) rest with
      | some (s, rest) => loop budget (d.push (.cls s)) rest
      | none => none
    | '?' :: rest =>
      let (greedy, rest) := greed rest
      match d.repeated? 0 (some 1) greedy with
      | some d => loop budget d rest
      | none => none
    | '*' :: rest =>
      let (greedy, rest) := greed rest
      match d.repeated? 0 none greedy with
      | some d => loop budget d rest
      | none => none
    | '+' :: rest =>
      let (greedy, rest) := greed rest
      match d.repeated? 1 none greedy with
      | some d => loop budget d rest
      | none => none
    | '\x7b' :: rest =>
      match counts? d.free rest with
      | some (lo, hi, greedy, rest) =>
        match d.repeated? lo hi greedy with
        | some d => loop budget d rest
        | none => none
      | none => none
    | '\\' :: rest =>
      match escape? d.free rest with
      | some (a, rest) => loop budget (d.push a.expr) rest
      | none => none
    | '.' :: rest => loop budget (d.push .dot) rest
    | '^' :: rest => loop budget (d.push (.assertion .lineStart)) rest
    | '$' :: rest => loop budget (d.push (.assertion .lineEnd)) rest
    | c :: rest => loop budget (d.push (.char c false)) rest

end Reader

/-- The deepest nesting of a pattern. -/
def deepest : Nat := 250

namespace ReadPattern

/-- Reads a pattern: every group closed, and nothing nested too deep. -/
def ofText? (pattern : String) : Option ReadPattern :=
  let cs := pattern.toList
  match Reader.loop (cs.length + 1) .start cs with
  | none => none
  | some d =>
    let e := d.content
    if d.stack.isEmpty && e.depth ≤ deepest then some ⟨e, d.names⟩ else none

end ReadPattern

end LintVerdict.Pattern
