import LintVerdict.Json.Value

/-!
# Reading JSON

The reader takes exactly the JSON grammar. It recurses on a budget of nested values that the
length of the text covers.

## Main definitions

* `Json.read?`: the value that a text is, if it is one value with nothing after it.
-/

namespace LintVerdict.Json

open Decimal (Numeral isDigit readDigits)

/-- A blank between the tokens of a JSON text. -/
def isSpace (c : Char) : Bool := c = ' ' || c = '\t' || c = '\n' || c = '\r'

/-- The text from the next token on. -/
def skip (cs : List Char) : List Char := cs.dropWhile isSpace

/-- The value of a hexadecimal digit. -/
def hexValue? (c : Char) : Option Nat :=
  let n := c.toNat
  if 48 ≤ n ∧ n ≤ 57 then some (n - 48)
  else if 97 ≤ n ∧ n ≤ 102 then some (n - 87)
  else if 65 ≤ n ∧ n ≤ 70 then some (n - 55)
  else none

/-- Four hexadecimal digits. -/
def hex4? : List Char → Option (Nat × List Char)
  | a :: b :: c :: d :: rest => do
    let a ← hexValue? a
    let b ← hexValue? b
    let c ← hexValue? c
    let d ← hexValue? d
    return (((a * 16 + b) * 16 + c) * 16 + d, rest)
  | _ => none

/-- The character that a one-letter escape stands for. -/
def shortEscape? : Char → Option Char
  | '\x22' => some '\x22'
  | '\\' => some '\\'
  | '/' => some '/'
  | 'b' => some '\x08'
  | 'f' => some '\x0c'
  | 'n' => some '\n'
  | 'r' => some '\r'
  | 't' => some '\t'
  | _ => none

/-- The character that an escape with a code stands for, a pair of surrogates as one. -/
def codeEscape? (cs : List Char) : Option (Char × List Char) := do
  let (high, rest) ← hex4? cs
  if 0xD800 ≤ high ∧ high < 0xDC00 then
    match rest with
    | '\\' :: 'u' :: rest => do
      let (low, rest) ← hex4? rest
      if 0xDC00 ≤ low ∧ low < 0xE000 then
        return (Char.ofNat (0x10000 + (high - 0xD800) * 0x400 + (low - 0xDC00)), rest)
      else none
    | _ => none
  else if 0xDC00 ≤ high ∧ high < 0xE000 then none
  else return (Char.ofNat high, rest)

/-- Reads a text up to its closing quote. -/
def readText : Nat → List Char → List Char → Option (String × List Char)
  | 0, _, _ => none
  | _, _, [] => none
  | budget + 1, acc, c :: rest =>
    if c = '\x22' then some (String.ofList acc.reverse, rest)
    else if c = '\\' then
      match rest with
      | 'u' :: rest =>
        match codeEscape? rest with
        | some (d, rest) => readText budget (d :: acc) rest
        | none => none
      | e :: rest =>
        match shortEscape? e with
        | some d => readText budget (d :: acc) rest
        | none => none
      | [] => none
    else if c.toNat < 32 then none
    else readText budget (c :: acc) rest

/-- The digits at the start of a text, at least one. -/
def digits? (cs : List Char) : Option (List Char × List Char) :=
  match cs.span isDigit with
  | ([], _) => none
  | r => some r

/-- The fraction of a number, if there is one. -/
def fraction? : List Char → Option (List Char × List Char)
  | '.' :: rest => digits? rest
  | rest => some ([], rest)

/-- The exponent of a number, if there is one. -/
def exponent? : List Char → Option (Option Int × List Char)
  | c :: rest =>
    if c = 'e' || c = 'E' then
      match rest with
      | '-' :: rest => do
        let (ds, rest) ← digits? rest
        return (some (-(readDigits 0 ds : Int)), rest)
      | '+' :: rest => do
        let (ds, rest) ← digits? rest
        return (some (readDigits 0 ds : Int), rest)
      | rest => do
        let (ds, rest) ← digits? rest
        return (some (readDigits 0 ds : Int), rest)
    else some (none, c :: rest)
  | [] => some (none, [])

/-- Reads the part of a number after its sign. -/
def readNumber (negative : Bool) (cs : List Char) : Option (Json × List Char) := do
  let (whole, rest) ← digits? cs
  if whole.head? = some '0' && whole.length ≠ 1 then none
  let (frac, rest) ← fraction? rest
  let (exp, rest) ← exponent? rest
  let value := readDigits 0 (whole ++ frac)
  if frac.isEmpty && exp.isNone && !(negative && value = 0) then
    return (.int (if negative then -(value : Int) else value), rest)
  else
    return (.decimal ⟨negative, value, exp.getD 0 - frac.length⟩, rest)

mutual

/-- Reads a value. -/
def readValue : Nat → List Char → Option (Json × List Char)
  | 0, _ => none
  | budget + 1, cs =>
    match skip cs with
    | 'n' :: 'u' :: 'l' :: 'l' :: rest => some (null, rest)
    | 't' :: 'r' :: 'u' :: 'e' :: rest => some (bool true, rest)
    | 'f' :: 'a' :: 'l' :: 's' :: 'e' :: rest => some (bool false, rest)
    | '\x22' :: rest => (readText (rest.length + 1) [] rest).map fun (s, rest) => (str s, rest)
    | '[' :: rest =>
      match skip rest with
      | ']' :: rest => some (arr [], rest)
      | _ => readItems budget [] rest
    | '\x7b' :: rest =>
      match skip rest with
      | '\x7d' :: rest => some (obj [], rest)
      | _ => readMembers budget [] rest
    | '-' :: rest => readNumber true rest
    | rest => readNumber false rest

/-- Reads the elements of a list, the ones read so far in front in reverse order. -/
def readItems : Nat → List Json → List Char → Option (Json × List Char)
  | 0, _, _ => none
  | budget + 1, acc, cs =>
    match readValue budget cs with
    | none => none
    | some (v, rest) =>
      match skip rest with
      | ',' :: rest => readItems budget (v :: acc) rest
      | ']' :: rest => some (arr (v :: acc).reverse, rest)
      | _ => none

/-- Reads the members of an object, the ones read so far in front in reverse order. -/
def readMembers : Nat → List (String × Json) → List Char → Option (Json × List Char)
  | 0, _, _ => none
  | budget + 1, acc, cs =>
    match skip cs with
    | '\x22' :: rest =>
      match readText (rest.length + 1) [] rest with
      | none => none
      | some (k, rest) =>
        match skip rest with
        | ':' :: rest =>
          match readValue budget rest with
          | none => none
          | some (v, rest) =>
            match skip rest with
            | ',' :: rest => readMembers budget ((k, v) :: acc) rest
            | '\x7d' :: rest => some (obj ((k, v) :: acc).reverse, rest)
            | _ => none
        | _ => none
    | _ => none

end

/-- The value that a text is. -/
def read? (s : String) : Option Json :=
  let cs := s.toList
  match readValue (cs.length + 1) cs with
  | some (v, rest) => if (skip rest).isEmpty then some v else none
  | none => none

end LintVerdict.Json
