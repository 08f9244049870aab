import LintVerdict.Json.Reader
import LintVerdict.Toml.Value

/-!
# Quoted texts in TOML

A text stands between double quotes, where escapes are read, or between single quotes, where
nothing is. Three quotes at each end let it run over several lines. Each reader begins behind
the opening quotes and gives the text and what follows the closing ones.

## Main definitions

* `Toml.readBasic`, `Toml.readLiteral`: texts on one line.
* `Toml.readLongBasic`, `Toml.readLongLiteral`: texts over several lines.
-/

namespace LintVerdict.Toml

/-- A blank inside a line. -/
def isSpace (c : Char) : Bool := c = ' ' || c = '\t'

/-- A character that may stand on a line. -/
def isPrintable (c : Char) : Bool := c = '\t' || (32 ≤ c.toNat && c.toNat ≠ 127)

/-- The character of a code in hexadecimal digits. -/
def coded? (digits : List Char) : Option Char := do
  let n ← digits.foldlM (fun n c => (Json.hexValue? c).map (16 * n + ·)) 0
  if n.isValidChar then some (Char.ofNat n) else none

/-- The character of a code that takes the first `n` characters. -/
def code? (n : Nat) (cs : List Char) : Option (Char × List Char) :=
  if cs.length < n then none else (coded? (cs.take n)).map fun c => (c, cs.drop n)

/-- The character of the escape whose letters follow. -/
def escape? : List Char → Option (Char × List Char)
  | 'b' :: cs => some ('\x08', cs)
  | 't' :: cs => some ('\t', cs)
  | 'n' :: cs => some ('\n', cs)
  | 'f' :: cs => some ('\x0c', cs)
  | 'r' :: cs => some ('\r', cs)
  | 'e' :: cs => some ('\x1b', cs)
  | '\x22' :: cs => some ('\x22', cs)
  | '\\' :: cs => some ('\\', cs)
  | 'x' :: cs => code? 2 cs
  | 'u' :: cs => code? 4 cs
  | 'U' :: cs => code? 8 cs
  | _ => none

/-- Reads a text in double quotes, the characters read so far in reverse order. -/
def readBasic : Nat → List Char → List Char → Option (String × List Char)
  | 0, _, _ => none
  | _, _, [] => none
  | budget + 1, acc, c :: rest =>
    if c = '\x22' then some (String.ofList acc.reverse, rest)
    else if c = '\\' then
      match escape? rest with
      | some (d, rest) => readBasic budget (d :: acc) rest
      | none => none
    else if isPrintable c then readBasic budget (c :: acc) rest
    else none

/-- Reads a text in single quotes, the characters read so far in reverse order. -/
def readLiteral : List Char → List Char → Option (String × List Char)
  | _, [] => none
  | acc, c :: rest =>
    if c = '\'' then some (String.ofList acc.reverse, rest)
    else if isPrintable c then readLiteral (c :: acc) rest
    else none

/-- The text without a line end at its start. -/
def dropLineEnd : List Char → List Char
  | '\n' :: rest => rest
  | '\r' :: '\n' :: rest => rest
  | cs => cs

/-- What three closing quotes end: up to two more quotes right behind them belong to the text. -/
def closing (quote : Char) (acc rest : List Char) : String × List Char :=
  let more := (rest.take 2).takeWhile (· = quote)
  (String.ofList (acc.reverse ++ more), rest.drop more.length)

/-- What follows a backslash that stands last on its line: the first character that is not
blank. -/
def joinedLine? (cs : List Char) : Option (List Char) :=
  let atEnd := cs.dropWhile isSpace
  if (dropLineEnd atEnd).length < atEnd.length then
    some (atEnd.dropWhile fun c => isSpace c || c = '\n' || c = '\r')
  else none

/-- Reads a text in three double quotes, the characters read so far in reverse order. -/
def readLongBasic : Nat → List Char → List Char → Option (String × List Char)
  | 0, _, _ => none
  | _, _, [] => none
  | _, acc, '\x22' :: '\x22' :: '\x22' :: rest => some (closing '\x22' acc rest)
  | budget + 1, acc, '\\' :: rest =>
    match joinedLine? rest with
    | some rest => readLongBasic budget acc rest
    | none =>
      match escape? rest with
      | some (d, rest) => readLongBasic budget (d :: acc) rest
      | none => none
  | budget + 1, acc, '\r' :: '\n' :: rest => readLongBasic budget ('\n' :: '\r' :: acc) rest
  | budget + 1, acc, c :: rest =>
    if c = '\n' || isPrintable c then readLongBasic budget (c :: acc) rest else none

/-- Reads a text in three single quotes, the characters read so far in reverse order. -/
def readLongLiteral : List Char → List Char → Option (String × List Char)
  | _, [] => none
  | acc, '\'' :: '\'' :: '\'' :: rest => some (closing '\'' acc rest)
  | acc, '\r' :: '\n' :: rest => readLongLiteral ('\n' :: '\r' :: acc) rest
  | acc, c :: rest =>
    if c = '\n' || isPrintable c then readLongLiteral (c :: acc) rest else none

/-- Reads a text on one line with the opening quote in front. -/
def readQuoted? : List Char → Option (String × List Char)
  | '\x22' :: rest => readBasic (rest.length + 1) [] rest
  | '\'' :: rest => readLiteral [] rest
  | _ => none

/-- Reads a text with the opening quotes in front. -/
def readText? : List Char → Option (String × List Char)
  | '\x22' :: '\x22' :: '\x22' :: rest => readLongBasic (rest.length + 1) [] (dropLineEnd rest)
  | '\'' :: '\'' :: '\'' :: rest => readLongLiteral [] (dropLineEnd rest)
  | cs => readQuoted? cs

end LintVerdict.Toml
