import LintVerdict.Files.Tree
import LintVerdict.Ignore.Glob

/-!
# Ignore rules

A file of ignore rules holds a glob a line. The last rule that fits a path decides whether the
path is ignored or explicitly kept.

## Main definitions

* `IgnoreRule.ofLine`: the rule of a line, if the line holds one.
* `RuleSet.load`: the rules of a file, together with what is wrong in it.
* `RuleSet.verdict`: what the rules say about a path.
-/

namespace LintVerdict

open Text (isBlank)

/-- What rules say about a path. -/
inductive Verdict where
  /-- No rule fits. -/
  | silent
  /-- The path is ignored. -/
  | ignored
  /-- The path is kept. -/
  | kept
  deriving DecidableEq, Repr

namespace Verdict

/-- A verdict, or another one where it is silent. -/
def orElse : Verdict → Verdict → Verdict
  | silent, v => v
  | v, _ => v

/-- The first verdict that is not silent. -/
def first (vs : List Verdict) : Verdict := vs.foldr orElse silent

end Verdict

/-- A rule. -/
structure IgnoreRule where
  /-- The paths that it fits. -/
  glob : Glob
  /-- Whether it keeps paths and does not ignore them. -/
  keeps : Bool
  /-- Whether it fits directories only. -/
  onlyDir : Bool

namespace IgnoreRule

/-- The line without the blanks at its end. -/
def trimEnd (line : List Char) : List Char := (line.reverse.dropWhile isBlank).reverse

/-- The text of a line that counts: an escaped blank at the end is kept. -/
def content (line : List Char) : List Char :=
  if [ '\\', ' ' ].isSuffixOf line then line else trimEnd line

/-- Whether a line keeps paths, whether its glob begins at the directory of the rules, and the
glob. -/
def marks : List Char → Bool × Bool × List Char
  | '\\' :: '!' :: rest => (false, false, '!' :: rest)
  | '\\' :: '#' :: rest => (false, false, '#' :: rest)
  | '!' :: '/' :: rest => (true, true, rest)
  | '!' :: rest => (true, false, rest)
  | '/' :: rest => (false, true, rest)
  | line => (false, false, line)

/-- Whether a glob ends in a slash, and the glob without it. -/
def dirMark (glob : List Char) : Bool × List Char :=
  match glob.reverse with
  | '/' :: '\\' :: rest => (true, rest.reverse)
  | '/' :: rest => (true, rest.reverse)
  | _ => (false, glob)

/-- A glob without a slash fits at every depth. -/
def anyDepth (anchored : Bool) (glob : List Char) : List Char :=
  if anchored || glob.contains '/' || glob = ['*', '*'] then glob else '*' :: '*' :: '/' :: glob

/-- A glob that ends in two stars fits what is below a directory, not the directory. -/
def strictlyBelow (glob : List Char) : List Char :=
  if ['/', '*', '*'].isSuffixOf glob then glob ++ ['/', '*'] else glob

/-- The rule of a line; an error also holds the text of the line that counts. -/
def ofLine (line : List Char) : Except (String × GlobError) (Option IgnoreRule) :=
  if line.head? = some '#' || (content line).isEmpty then .ok none
  else
    let (keeps, anchored, rest) := marks (content line)
    let (onlyDir, glob) := dirMark rest
    match Glob.parse (String.ofList (strictlyBelow (anyDepth anchored glob))) with
    | .error e => .error (String.ofList (content line), e)
    | .ok glob => .ok (some ⟨glob, keeps, onlyDir⟩)

end IgnoreRule

/-- The text after another one that begins it. -/
def dropStart? (start text : List Char) : Option (List Char) :=
  if start.isPrefixOf text then some (text.drop start.length) else none

/-- The text without a certain start, if it has it. -/
def dropStart (start text : List Char) : List Char := (dropStart? start text).getD text

/-- Whether a path is the current directory, written as a dot. -/
def FilePath.isDot (path : SystemText) : Bool :=
  let p := Pieces.ofPath path
  p.start = .dot && p.names.isEmpty

/-- The rules of a file. -/
structure RuleSet where
  /-- The directory that they are about, without `./` at its start. -/
  root : SystemText
  /-- The rules, in order. -/
  rules : List IgnoreRule

namespace RuleSet

/-- A path as seen from the directory of the rules. -/
def relative (s : RuleSet) (path : SystemText) : SystemText :=
  let cs := dropStart ['.', '/'] path.toList
  String.ofList <|
    if FilePath.isDot s.root || !cs.contains '/' then cs
    else
      match dropStart? s.root.toList cs with
      | none => cs
      | some rest => dropStart ['/'] rest

/-- What the rules say about a path. -/
def verdict (s : RuleSet) (path : SystemText) (isDir : Bool) : Verdict :=
  let seen := s.relative path
  match s.rules.reverse.find? fun r => (!r.onlyDir || isDir) && r.glob.accepts seen with
  | none => .silent
  | some r => if r.keeps then .kept else .ignored

/-- The lines of a file up to the first one that is no text, and whether there is one. -/
def textLines (content : ByteArray) : List (List Char) × Bool :=
  match String.fromUTF8? content with
  | some s => (Text.lineChars s.toList, false)
  | none =>
    let pieces := content.toList.splitOn 10
    let good := pieces.takeWhile fun p => (String.fromUTF8? ⟨p.toArray⟩).isSome
    (good.map fun p => Text.dropReturn ((String.fromUTF8? ⟨p.toArray⟩).getD "").toList, true)

/-- The lines without byte order marks at the start of the first. -/
def dropMarks : List (List Char) → List (List Char)
  | [] => []
  | l :: rest => l.dropWhile (· = '\ufeff') :: rest

/-- The rules of lines that count from a number on, and the texts of the faults. -/
def ofLines (path : String) : Nat → List (List Char) → List IgnoreRule × List String
  | _, [] => ([], [])
  | n, l :: rest =>
    let (rules, faults) := ofLines path (n + 1) rest
    match IgnoreRule.ofLine l with
    | .ok none => (rules, faults)
    | .ok (some r) => (r :: rules, faults)
    | .error (text, e) =>
      (rules, (path ++ ": line " ++ toString n ++ ": error parsing glob '" ++ text ++ "': " ++
        e.message) :: faults)

/-- The rules about a directory that a file holds, and what is wrong in it. A file that is not
there holds none. An unreadable line ends the file and is told only after other faults. -/
def load (files : Files) (root path : SystemText) : RuleSet × List String :=
  let root := String.ofList (dropStart ['.', '/'] root.toList)
  match files.read path with
  | .error _ => (⟨root, []⟩, [])
  | .ok content =>
    let (lines, unread) := textLines content
    let shown := Text.decoded path
    let (rules, faults) := ofLines shown 1 (dropMarks lines)
    let last := shown ++ ": line " ++ toString (lines.length + 1) ++ ": " ++
      SystemError.notUtf8.message
    (⟨root, rules⟩, if unread && !faults.isEmpty then faults ++ [last] else faults)

end RuleSet

end LintVerdict
