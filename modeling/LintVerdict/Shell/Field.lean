import LintVerdict.Shell.State

/-!
# Fields

What the parts of a word stand for is text of different kinds: some of it is split at blanks,
some of it makes file name patterns.

## Main definitions

* `Piece`: a character with its kind, or a mark between characters.
* `fields`: the fields that pieces fall into.
-/

namespace LintVerdict.Shell

/-- A character of an expanded word, or a mark in it. -/
inductive Piece where
  /-- A quoted character. -/
  | solid (c : Char)
  /-- A character of the word itself. -/
  | plain (c : Char)
  /-- A character of a value, where fields may end. -/
  | loose (c : Char)
  /-- Something quoted, perhaps without characters. -/
  | keep
  /-- The end of a field. -/
  | cut
  deriving DecidableEq, Repr

namespace Piece

/-- The pieces of a value. -/
def ofValue (quoted : Bool) (cs : List Char) : List Piece :=
  if quoted then .keep :: cs.map .solid else cs.map .loose

/-- The character of a piece, with the mark whether it is quoted. A field's end is a blank. -/
def char? : Piece → Option (Char × Bool)
  | solid c => some (c, true)
  | plain c => some (c, false)
  | loose c => some (c, false)
  | keep => none
  | cut => some (' ', true)

/-- The characters of pieces that are not split. -/
def chars (ps : List Piece) : List Char := ps.filterMap fun p => p.char?.map (·.1)

/-- The pieces of a word that stands in for a value. -/
def loosened : Piece → Piece
  | plain c => loose c
  | p => p

/-- The pieces of values with an end of a field between them. -/
def between (quoted : Bool) (values : List (List Char)) : List Piece :=
  List.intercalate [.cut] (values.map (ofValue quoted))

end Piece

/-- A field in the making. -/
structure Field where
  /-- Its characters, in reverse order. -/
  chars : List (Char × Bool)
  /-- Whether it has begun. -/
  begun : Bool
  /-- Whether a blank has just ended the field before it. -/
  afterBlank : Bool
  deriving DecidableEq, Repr

namespace Field

/-- No field yet. -/
def none : Field := ⟨[], false, false⟩

/-- A field with one more character. -/
def push (f : Field) (c : Char) (quoted : Bool) : Field := ⟨(c, quoted) :: f.chars, true, false⟩

/-- The finished field. -/
def done (f : Field) : List (Char × Bool) := f.chars.reverse

end Field

/-- A character that only ever separates fields. -/
def isSeparatingBlank (c : Char) : Bool := c = ' ' || c = '\t' || c = '\n'

/-- The fields that pieces fall into. Blanks of values separate fields together, any other
separator by itself. -/
def fields (separators : List Char) : Field → List Piece → List (List (Char × Bool))
  | f, [] => if f.begun then [f.done] else []
  | f, .solid c :: ps => fields separators (f.push c true) ps
  | f, .plain c :: ps => fields separators (f.push c false) ps
  | f, .keep :: ps => fields separators { f with begun := true, afterBlank := false } ps
  | f, .cut :: ps =>
    if f.begun then f.done :: fields separators .none ps else fields separators .none ps
  | f, .loose c :: ps =>
    if !separators.contains c then fields separators (f.push c false) ps
    else if isSeparatingBlank c then
      if f.begun then f.done :: fields separators ⟨[], false, true⟩ ps
      else fields separators f ps
    else if f.begun || !f.afterBlank then f.done :: fields separators .none ps
    else fields separators .none ps

end LintVerdict.Shell
