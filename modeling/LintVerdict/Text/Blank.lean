/-!
# Blank characters, words and lines

The blank characters are those with the Unicode property `White_Space`. The file says how a
text is trimmed of them, how it falls into words, and how it falls into lines.

## Main definitions

* `isBlank`: the class of blank characters.
* `trim`: the text without the blanks at its two ends.
* `words`: the maximal runs of characters that are not blank, in order.
* `lines`: the lines of a text, a line feed (and a carriage return before it) ending a line.
-/

namespace LintVerdict.Text

/-- A character with the property `White_Space`. -/
def isBlank (c : Char) : Bool :=
  let n := c.toNat
  (9 ≤ n && n ≤ 13) || n == 32 || n == 0x85 || n == 0xA0 || n == 0x1680 ||
    (0x2000 ≤ n && n ≤ 0x200A) || n == 0x2028 || n == 0x2029 || n == 0x202F ||
    n == 0x205F || n == 0x3000

/-- The characters from the first one that is not blank on. -/
def dropBlanks (cs : List Char) : List Char := cs.dropWhile isBlank

/-- The characters without the blanks at the two ends. -/
def trimChars (cs : List Char) : List Char := (dropBlanks (dropBlanks cs).reverse).reverse

/-- The text without the blanks at its two ends. -/
def trim (s : String) : String := String.ofList (trimChars s.toList)

/-- One step of the split into words, from the right: the flag says whether the first word
of the rest begins right here. -/
def wordStep (c : Char) : Bool × List (List Char) → Bool × List (List Char)
  | (joined, ws) =>
    if isBlank c then (false, ws)
    else match joined, ws with
      | true, w :: rest => (true, (c :: w) :: rest)
      | _, _ => (true, [c] :: ws)

/-- The maximal runs of characters that are not blank. -/
def wordChars (cs : List Char) : List (List Char) := (cs.foldr wordStep (false, [])).2

/-- The words of a text. -/
def words (s : String) : List String := (wordChars s.toList).map String.ofList

/-- One step of the split into lines, from the right. -/
def lineStep (c : Char) (ls : List (List Char)) : List (List Char) :=
  if c = '\n' then [] :: ls
  else match ls with
    | [] => [[c]]
    | l :: rest => (c :: l) :: rest

/-- The pieces that line feeds end, the last one ended by the text's end if it is not empty. -/
def feedLines (cs : List Char) : List (List Char) := cs.foldr lineStep []

/-- A piece without the carriage return at its end. -/
def dropReturn (l : List Char) : List Char :=
  if l.getLast? = some '\r' then l.dropLast else l

/-- The lines of a text. A line feed ends a line, and a carriage return right before it
belongs to the line's end. A line that the text's end closes keeps its carriage return. -/
def lineChars (cs : List Char) : List (List Char) :=
  match feedLines cs with
  | [] => []
  | l :: ls =>
    let all := l :: ls
    if cs.getLast? = some '\n' then all.map dropReturn
    else all.dropLast.map dropReturn ++ all.getLast?.toList

/-- The lines of a text, as strings. -/
def lines (s : String) : List String := (lineChars s.toList).map String.ofList

/-- The pieces of a text between the separators, one more than there are separators. -/
def splitStep (sep : Char) (c : Char) (ps : List (List Char)) : List (List Char) :=
  if c = sep then [] :: ps
  else match ps with
    | [] => [[c]]
    | p :: rest => (c :: p) :: rest

/-- The pieces of a text between the separators: `n` separators give `n + 1` pieces. -/
def splitChars (sep : Char) (cs : List Char) : List (List Char) := cs.foldr (splitStep sep) [[]]

/-- The pieces of a text between the separators, as strings. -/
def splitAt (sep : Char) (s : String) : List String := (splitChars sep s.toList).map String.ofList

/-- The parts between the separator, glued back with it. -/
def joinWith (sep : String) (parts : List String) : String := sep.intercalate parts

end LintVerdict.Text
