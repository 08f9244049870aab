import LintVerdict.Toml.Draft
import LintVerdict.Toml.Quoted

/-!
# Reading TOML

A document is a list of lines. A line opens a table, adds a key to the open table, or is blank.

## Main definitions

* `Toml.readKey?`, `Toml.readValue`: the parts of a line.
* `Toml.read?`: the table that a document is, if it is well formed.
-/

namespace LintVerdict.Toml

/-- The text without the blanks at its start. -/
def skip (cs : List Char) : List Char := cs.dropWhile isSpace

/-- What follows a comment, if one begins here and holds no control character. -/
def dropComment? : List Char → Option (List Char)
  | '#' :: cs =>
    match cs.dropWhile isPrintable with
    | [] => some []
    | '\n' :: rest => some ('\n' :: rest)
    | '\r' :: '\n' :: rest => some ('\n' :: rest)
    | _ => none
  | cs => some cs

/-- What follows the end of a line: blanks, perhaps a comment, then a line end or the end of
the document. -/
def endLine? (cs : List Char) : Option (List Char) := do
  let rest ← dropComment? (skip cs)
  match rest with
  | [] => some []
  | _ => if (dropLineEnd rest).length < rest.length then some (dropLineEnd rest) else none

/-- What follows blanks, comments and line ends. -/
def skipLines : Nat → List Char → List Char
  | 0, cs => cs
  | budget + 1, cs =>
    match endLine? cs with
    | some (c :: rest) => skipLines budget (c :: rest)
    | some [] => []
    | none => skip cs

/-- A character of a key without quotes. -/
def isBare (c : Char) : Bool :=
  ('a' ≤ c && c ≤ 'z') || ('A' ≤ c && c ≤ 'Z') || ('0' ≤ c && c ≤ '9') || c = '_' || c = '-'

/-- Reads one part of a key. -/
def readPart? (cs : List Char) : Option (String × List Char) :=
  match cs.span isBare with
  | ([], _) => readQuoted? cs
  | (name, rest) => some (String.ofList name, rest)

/-- Reads a key: parts with dots between them. What comes next is no blank. -/
def readKey? : Nat → List Char → Option (List String × List Char)
  | 0, _ => none
  | budget + 1, cs => do
    let (part, rest) ← readPart? (skip cs)
    match skip rest with
    | '.' :: rest =>
      let (parts, rest) ← readKey? budget rest
      return (part :: parts, rest)
    | rest => return ([part], rest)

/-- A key as the path to its table and its last part. -/
def splitKey (parts : List String) : List String × String :=
  (parts.dropLast, parts.getLast?.getD "")

/-- A character that ends a word. -/
def endsWord (c : Char) : Bool :=
  c = '=' || c = ',' || c = '[' || c = ']' || c = '\x7b' || c = '\x7d' || isSpace c || c = '#' ||
    c = '\r' || c = '\n'

mutual

/-- Reads a value. -/
def readValue : Nat → List Char → Option (Toml × List Char)
  | 0, _ => none
  | budget + 1, cs =>
    match cs with
    | '[' :: rest => readItems budget [] rest
    | '\x7b' :: rest => readFields budget [] rest
    | '\x22' :: _ => (readText? cs).map fun (s, rest) => (text s, rest)
    | '\'' :: _ => (readText? cs).map fun (s, rest) => (text s, rest)
    | _ =>
      let (word, rest) := cs.span fun c => !endsWord c
      let (word, rest) := joinTime endsWord word rest
      (scalar? word).map fun v => (v, rest)

/-- Reads the elements of a list, those read so far in reverse order. -/
def readItems : Nat → List Toml → List Char → Option (Toml × List Char)
  | 0, _, _ => none
  | budget + 1, acc, cs =>
    match skipLines (cs.length + 1) cs with
    | ']' :: rest => some (array acc.reverse, rest)
    | cs =>
      match readValue budget cs with
      | none => none
      | some (v, rest) =>
        match skipLines (rest.length + 1) rest with
        | ',' :: rest => readItems budget (v :: acc) rest
        | ']' :: rest => some (array (v :: acc).reverse, rest)
        | _ => none

/-- Reads the keys of a table between braces, with the table as far as it is read. -/
def readFields : Nat → List (String × Draft) → List Char → Option (Toml × List Char)
  | 0, _, _ => none
  | budget + 1, entries, cs =>
    match skipLines (cs.length + 1) cs with
    | '\x7d' :: rest => some (Draft.finish entries, rest)
    | cs =>
      match readKey? (cs.length + 1) cs with
      | some (parts, '=' :: rest) =>
        match readValue budget (skip rest) with
        | none => none
        | some (v, rest) =>
          let (path, key) := splitKey parts
          match Draft.addKey? [] path key v entries with
          | none => none
          | some entries =>
            match skipLines (rest.length + 1) rest with
            | ',' :: rest => readFields budget entries rest
            | '\x7d' :: rest => some (Draft.finish entries, rest)
            | _ => none
      | _ => none

end

/-- A document as far as it is read: the tables, and the header of the open one. -/
structure Document where
  /-- The root table. -/
  entries : List (String × Draft)
  /-- The path of the open table. -/
  header : List String

/-- Reads a line that opens a table, from behind the first bracket on. -/
def Document.readHeader? (d : Document) (cs : List Char) : Option (Document × List Char) :=
  match cs with
  | '[' :: cs => do
    match ← readKey? (cs.length + 1) cs with
    | (parts, ']' :: ']' :: rest) =>
      let (path, key) := splitKey parts
      return (⟨← Draft.openElement? path key d.entries, parts⟩, rest)
    | _ => none
  | cs => do
    match ← readKey? (cs.length + 1) cs with
    | (parts, ']' :: rest) =>
      let (path, key) := splitKey parts
      return (⟨← Draft.openTable? path key d.entries, parts⟩, rest)
    | _ => none

/-- Reads a line that adds a key to the open table. -/
def Document.readPair? (d : Document) (cs : List Char) : Option (Document × List Char) := do
  match ← readKey? (cs.length + 1) cs with
  | (parts, '=' :: rest) =>
    let (v, rest) ← readValue (rest.length + 1) (skip rest)
    let (path, key) := splitKey parts
    return (⟨← Draft.addKey? d.header path key v d.entries, d.header⟩, rest)
  | _ => none

/-- Reads lines up to the end of the document. -/
def Document.read? : Nat → Document → List Char → Option Document
  | 0, _, _ => none
  | budget + 1, d, cs =>
    match endLine? cs with
    | some [] => some d
    | some rest => read? budget d rest
    | none => do
      let (d, rest) ←
        match skip cs with
        | '[' :: rest => d.readHeader? rest
        | rest => d.readPair? rest
      let rest ← endLine? rest
      read? budget d rest

/-- The document without a byte order mark at its start. -/
def dropMark : List Char → List Char
  | '\ufeff' :: rest => rest
  | cs => cs

/-- The table that a document is. -/
def read? (document : String) : Option Toml :=
  let cs := dropMark document.toList
  (Document.read? (cs.length + 1) ⟨[], []⟩ cs).map fun d => Draft.finish d.entries

end LintVerdict.Toml
