import LintVerdict.Pattern.Expr.Reader
import LintVerdict.Pattern.Regex
import LintVerdict.Unicode.Age
import LintVerdict.Unicode.Break
import LintVerdict.Unicode.Script

/-!
# The meaning of a written pattern

A written pattern becomes a regular expression once its flags are worked into its parts. Flags
set in a group end with the group.

## Main definitions

* `PropertyQuery.set?`: the characters with a property.
* `ClassExpr.set?`: the characters in a written set.
* `Expr.regex?`: the regular expression of a pattern, `none` when a property is unknown or
  when a part without Unicode classes could match half a character.
-/

namespace LintVerdict.Pattern

open Unicode (ageRanges? breakRanges? categories? categoryRanges extensionRanges propertyRanges?
  script? scriptRanges)
open Unicode.Table (looseName)

namespace PropertyQuery

/-- The characters of a category or a group of categories. -/
def category? (name : String) : Option CharSet :=
  if name = "any" then some .univ
  else if name = "ascii" then some .ascii
  else if name = "assigned" then some (CharSet.ofRanges (categoryRanges ["Cn"])).complement
  else (categories? name).map fun cs => .ofRanges (categoryRanges cs)

/-- The characters of a script. -/
def scriptSet? (name : String) : Option CharSet :=
  (script? name).map fun code => .ofRanges (scriptRanges code)

/-- The characters that a script uses, with those that it shares with others. -/
def extensionSet? (name : String) : Option CharSet :=
  (script? name).map fun code => .ofRanges (extensionRanges code)

/-- Names of categories that are abbreviations of other properties too. -/
def isShared (name : String) : Bool := name = "cf" || name = "sc" || name = "lc"

/-- The characters with a property. A bare name is looked up among the properties, then the
categories, then the scripts. -/
def set? : PropertyQuery → Option CharSet
  | named n =>
    let n := looseName n
    match if isShared n then none else propertyRanges? n with
    | some rs => some (.ofRanges rs)
    | none =>
      match category? n with
      | some s => some s
      | none => scriptSet? n
  | valued p v =>
    match looseName p with
    | "gc" => category? (looseName v)
    | "generalcategory" => category? (looseName v)
    | "sc" => scriptSet? (looseName v)
    | "script" => scriptSet? (looseName v)
    | "scx" => extensionSet? (looseName v)
    | "scriptextensions" => extensionSet? (looseName v)
    | "age" => (ageRanges? (looseName v)).map .ofRanges
    | p => (breakRanges? p (looseName v)).map .ofRanges

end PropertyQuery

namespace CharSet

/-- The set closed under the case of ASCII letters. -/
def foldAscii (s : CharSet) : CharSet :=
  let letters := (List.range 26).flatMap fun i =>
    if hasCode (65 + i) s.ranges || hasCode (97 + i) s.ranges then
      [(65 + i, 65 + i), (97 + i, 97 + i)]
    else []
  s.union (ofRanges letters)

/-- The set closed under case, if case does not matter. -/
def fold (f : Flags) (s : CharSet) : CharSet :=
  if f.ignoreCase then (if f.unicode then s.foldCase else s.foldAscii) else s

end CharSet

/-- The characters of a class with a one-letter name. -/
def ClassLetter.set (unicode : Bool) : ClassLetter → CharSet
  | digit => if unicode then .digits else .asciiDigits
  | space => if unicode then .spaces else .asciiSpaces
  | word => if unicode then .word else .asciiWord

/-- A set that stands for whole characters: without Unicode classes it must be ASCII. -/
def wholeChars? (f : Flags) (s : CharSet) : Option CharSet :=
  if f.unicode || s.isAscii then some s else none

namespace ClassExpr

/-- The characters in a written set. Case is folded before a set is negated and before an
operator is applied. -/
def set? (f : Flags) : ClassExpr → Option CharSet
  | empty => some .empty
  | char c _ => wholeChars? f (.single c)
  | range lo hi => wholeChars? f (.ofRanges [(lo.toNat, hi.toNat)])
  | ascii negated rs => wholeChars? f (CharSet.negateIf negated ((CharSet.ofRanges rs).fold f))
  | letter negated l => wholeChars? f (CharSet.negateIf negated (l.set f.unicode))
  | property negated q =>
    if f.unicode then q.set?.map fun s => CharSet.negateIf negated (s.fold f) else none
  | bracket negated s => do wholeChars? f (CharSet.negateIf negated ((← s.set? f).fold f))
  | union a b => return (← a.set? f).union (← b.set? f)
  | inter a b => return ((← a.set? f).fold f).inter ((← b.set? f).fold f)
  | diff a b => return ((← a.set? f).fold f).diff ((← b.set? f).fold f)
  | symmDiff a b => return ((← a.set? f).fold f).symmDiff ((← b.set? f).fold f)

end ClassExpr

/-- The condition that an assertion stands for under the flags. -/
def Assertion.look (f : Flags) : Assertion → Look
  | lineStart => if f.multiLine then (if f.crlf then .lineStart else .feedStart) else .textStart
  | lineEnd => if f.multiLine then (if f.crlf then .lineEnd else .feedEnd) else .textEnd
  | textStart => .textStart
  | textEnd => .textEnd
  | wordEdge => .wordEdge !f.unicode
  | notWordEdge => .notWordEdge !f.unicode
  | wordStart => .wordStart !f.unicode
  | wordEnd => .wordEnd !f.unicode
  | noWordBefore => .noWordBefore !f.unicode
  | noWordAfter => .noWordAfter !f.unicode

/-- The characters that a dot takes. -/
def dotSet (f : Flags) : CharSet :=
  if f.dotAll then .univ
  else if f.crlf then (CharSet.ofRanges [(10, 10), (13, 13)]).complement
  else (CharSet.single '\n').complement

/-- The characters that a single written character takes. -/
def charSet? (f : Flags) (c : Char) (byte : Bool) : Option CharSet :=
  if !f.unicode && byte && 127 < c.toNat then none
  else if f.unicode || c.toNat < 128 then some ((CharSet.single c).fold f)
  else some (.single c)

namespace Expr

/-- The regular expression of a pattern under flags, and the flags after it. -/
def regexWith? (f : Flags) : Expr → Option (Regex × Flags)
  | empty => some (.empty, f)
  | flags c => some (.empty, f.apply c)
  | char c byte => (charSet? f c byte).map fun s => (.chars s, f)
  | dot => if f.unicode then some (.chars (dotSet f), f) else none
  | assertion a => some (.look (a.look f), f)
  | cls s => (s.set? f).map fun s => (.chars s, f)
  | repeated min max greedy e => do
    let (r, _) ← e.regexWith? f
    return (r.repeated min max (greedy != f.swapGreed), f)
  | group i e => do
    let (r, _) ← e.regexWith? f
    return (.group i r, f)
  | flagged c e => do
    let (r, _) ← e.regexWith? (f.apply c)
    return (r, f)
  | alt a b => do
    let (ra, f) ← a.regexWith? f
    let (rb, f) ← b.regexWith? f
    return (.alt ra rb, f)
  | cat a b => do
    let (ra, f) ← a.regexWith? f
    let (rb, f) ← b.regexWith? f
    return (.cat ra rb, f)

/-- The regular expression of a pattern. -/
def regex? (f : Flags) (e : Expr) : Option Regex := (e.regexWith? f).map (·.1)

end Expr

namespace Regex

/-- About how many bytes a set takes in a machine over bytes. Beyond ASCII a range takes a few
transitions and states. -/
def setWeight (s : CharSet) : Nat :=
  if s.isAscii then 32 + 8 * s.ranges.length else 32 + 26 * s.ranges.length

/-- About how many bytes an expression takes when it is laid out. -/
def weight : Regex → Nat
  | empty => 0
  | chars s => setWeight s
  | look _ => 32
  | cat a b => a.weight + b.weight
  | alt a b => a.weight + b.weight + 72
  | plus _ a => a.weight + 40
  | group _ a => a.weight + 64

end Regex

/-- The most bytes that an expression may take: ten mebibytes. -/
def weightLimit : Nat := 10 * Nat.pow 2 20

end LintVerdict.Pattern
