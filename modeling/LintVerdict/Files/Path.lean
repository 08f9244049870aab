import LintVerdict.Text.Blank
import LintVerdict.Text.Bytes

/-!
# Path texts

A path is a text of the system: names with slashes between them. These functions work on the text
alone.

## Main definitions

* `FilePath.join`: a path under another.
* `FilePath.parent?`: the path without its last name.
* `FilePath.below?`: the part of a path below another path.
-/

namespace LintVerdict.FilePath

open Text (splitChars)

/-- Whether a path starts at the root. -/
def isAbsolute (path : SystemText) : Bool := path.toList.head? = some '/'

/-- A path under a base. An absolute path stands for itself. -/
def join (base path : SystemText) : SystemText :=
  if isAbsolute path then path
  else if base.isEmpty || base.toList.getLast? = some '/' then base ++ path
  else base ++ "/" ++ path

/-- Where a path starts. -/
inductive Start where
  /-- At the root. -/
  | top
  /-- At the current directory, which is written as a dot. -/
  | dot
  /-- At the current directory, which is not written. -/
  | plain
  deriving DecidableEq, Repr

/-- A path in pieces: its start, and what stands between the slashes after it. -/
structure Pieces where
  /-- The start. -/
  start : Start
  /-- The pieces, empty ones and dots included. -/
  body : List (List Char)
  deriving DecidableEq, Repr

namespace Pieces

/-- The pieces of a path. -/
def ofPath (path : SystemText) : Pieces :=
  match splitChars '/' path.toList with
  | [] :: p :: rest => ⟨.top, p :: rest⟩
  | ['.'] :: rest => ⟨.dot, rest⟩
  | all => ⟨.plain, all⟩

/-- The text that stands for a start. -/
def startText : Start → List Char
  | .top => ['/']
  | .dot => ['.']
  | .plain => []

/-- Whether a piece names nothing. -/
def isIdle (piece : List Char) : Bool := piece.isEmpty || piece = ['.']

/-- The pieces without those at the end that name nothing. -/
def trimEnd (p : Pieces) : Pieces := ⟨p.start, (p.body.reverse.dropWhile isIdle).reverse⟩

/-- The path of the pieces. -/
def toPath (p : Pieces) : SystemText :=
  let text := List.intercalate ['/'] p.body
  String.ofList <|
    startText p.start ++ (if p.start = .dot && !p.body.isEmpty then '/' :: text else text)

/-- The pieces that name something. -/
def names (p : Pieces) : List (List Char) := p.body.filter fun x => !isIdle x

/-- The pieces below those that name the given names in turn. -/
def dropNames : List (List Char) → List (List Char) → Option (List (List Char))
  | [], body => some body
  | _ :: _, [] => none
  | n :: ns, piece :: body =>
    if isIdle piece then dropNames (n :: ns) body
    else if piece = n then dropNames ns body
    else none

end Pieces

/-- The path without its last name; the root and the empty path have none. -/
def parent? (path : SystemText) : Option SystemText :=
  let p := (Pieces.ofPath path).trimEnd
  match p.body, p.start with
  | [], .dot => some ""
  | [], _ => none
  | body, start => some (Pieces.toPath (Pieces.trimEnd ⟨start, body.dropLast⟩))

/-- The last name of a path. -/
def lastName (path : SystemText) : SystemText :=
  match (Pieces.ofPath path).names.getLast? with
  | some n => String.ofList n
  | none => ""

/-- The part of a path below a base, name by name: nothing when the path does not lead through
the base. -/
def below? (base path : SystemText) : Option SystemText :=
  let b := Pieces.ofPath base
  let p := Pieces.ofPath path
  if b.start = .plain && b.names.isEmpty then some (Pieces.toPath p.trimEnd)
  else if b.start = p.start then
    (Pieces.dropNames b.names p.body).map fun rest =>
      Pieces.toPath (Pieces.trimEnd ⟨.plain, rest.dropWhile Pieces.isIdle⟩)
  else none

end LintVerdict.FilePath
