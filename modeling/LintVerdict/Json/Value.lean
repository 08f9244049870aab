import LintVerdict.Decimal.Numeral

/-!
# JSON values

## Main definitions

* `Json`: a value, with whole numbers apart from numbers with a fraction or an exponent.
* `Json.pretty`: the text of a value, one member or element a line.
* `Json.compact`: the text of a value on one line.
-/

namespace LintVerdict

/-- A JSON value. Members keep their order. -/
inductive Json where
  /-- The value `null`. -/
  | null
  /-- A truth value. -/
  | bool (b : Bool)
  /-- A number written with digits only. -/
  | int (n : Int)
  /-- A number written with a fraction or an exponent. -/
  | decimal (n : Decimal.Numeral)
  /-- A text. -/
  | str (s : String)
  /-- A list of values. -/
  | arr (items : List Json)
  /-- Named values. -/
  | obj (members : List (String × Json))

namespace Json

/-- A hexadecimal digit, in lower case. -/
def hexDigit (n : Nat) : Char := if n < 10 then Char.ofNat (48 + n) else Char.ofNat (87 + n)

/-- A character inside a JSON text. -/
def escapeChar (c : Char) : List Char :=
  if c = '\x22' then ['\\', '\x22']
  else if c = '\\' then ['\\', '\\']
  else if c = '\n' then ['\\', 'n']
  else if c = '\r' then ['\\', 'r']
  else if c = '\t' then ['\\', 't']
  else if c = '\x08' then ['\\', 'b']
  else if c = '\x0c' then ['\\', 'f']
  else if c.toNat < 32 then
    ['\\', 'u', '0', '0', hexDigit (c.toNat / 16), hexDigit (c.toNat % 16)]
  else [c]

/-- A text in quotes. -/
def quote (s : String) : String :=
  "\x22" ++ String.ofList (s.toList.flatMap escapeChar) ++ "\x22"

/-- The text of a number with a fraction or an exponent. -/
def decimalText (n : Decimal.Numeral) : String :=
  (if n.negative then "-" else "") ++ toString n.mantissa ++ "e" ++ toString n.exponent

/-- A line break and the indentation of a depth. -/
def newline (depth : Nat) : String := "\n" ++ String.ofList (List.replicate (2 * depth) ' ')

/-- Parts on lines of their own, between brackets. -/
def block (opening closing : String) (depth : Nat) (parts : List String) : String :=
  match parts with
  | [] => opening ++ closing
  | _ =>
    opening ++ newline (depth + 1) ++ ("," ++ newline (depth + 1)).intercalate parts ++
      newline depth ++ closing

mutual

/-- The text of a value that stands at a depth. -/
def prettyAt (depth : Nat) : Json → String
  | null => "null"
  | bool b => if b then "true" else "false"
  | int n => toString n
  | decimal n => decimalText n
  | str s => quote s
  | arr items => block "[" "]" depth (prettyItems (depth + 1) items)
  | obj members => block "\x7b" "\x7d" depth (prettyMembers (depth + 1) members)

/-- The texts of the elements of a list. -/
def prettyItems (depth : Nat) : List Json → List String
  | [] => []
  | v :: rest => prettyAt depth v :: prettyItems depth rest

/-- The texts of the members of an object. -/
def prettyMembers (depth : Nat) : List (String × Json) → List String
  | [] => []
  | (k, v) :: rest => (quote k ++ ": " ++ prettyAt depth v) :: prettyMembers depth rest

end

/-- The text of a value, each element and member on a line of its own, indented by two
spaces a level. -/
def pretty (v : Json) : String := prettyAt 0 v

mutual

/-- The text of a value on one line. -/
def compact : Json → String
  | null => "null"
  | bool b => if b then "true" else "false"
  | int n => toString n
  | decimal n => decimalText n
  | str s => quote s
  | arr items => "[" ++ compactItems items ++ "]"
  | obj members => "\x7b" ++ compactMembers members ++ "\x7d"

/-- The texts of the elements of a list, separated by commas. -/
def compactItems : List Json → String
  | [] => ""
  | [v] => compact v
  | v :: rest => compact v ++ "," ++ compactItems rest

/-- The texts of the members of an object, separated by commas. -/
def compactMembers : List (String × Json) → String
  | [] => ""
  | [(k, v)] => quote k ++ ":" ++ compact v
  | (k, v) :: rest => quote k ++ ":" ++ compact v ++ "," ++ compactMembers rest

end

/-- The member of a name; of several the last one. -/
def member? (name : String) : Json → Option Json
  | obj members => (members.reverse.find? fun m => m.1 = name).map (·.2)
  | _ => none

end Json

end LintVerdict
