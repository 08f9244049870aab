/-!
# Shell arithmetic

## Main definitions

* `arithmetic?`: the value of an expression over whole numbers.
-/

namespace LintVerdict.Shell

/-- A token of an expression. -/
inductive SumToken where
  /-- A number. -/
  | number (n : Int)
  /-- A variable. -/
  | name (cs : List Char)
  /-- An operator or parenthesis. -/
  | sign (s : String)
  deriving DecidableEq, Repr

/-- The signs, the longer ones before those that begin them. -/
def sumSigns : List String :=
  ["<<", ">>", "<=", ">=", "==", "!=", "&&", "||", "+", "-", "*", "/", "%", "<", ">", "!", "~",
    "&", "^", "|", "(", ")", "?", ":"]

/-- The value of a digit in bases up to sixteen; sixteen for anything else. -/
def digitOf (c : Char) : Nat :=
  if '0' ≤ c && c ≤ '9' then c.toNat - 48
  else if 'a' ≤ c && c ≤ 'f' then c.toNat - 87
  else if 'A' ≤ c && c ≤ 'F' then c.toNat - 55
  else 16

/-- The value of digits in a base. -/
def inBase (base : Nat) (cs : List Char) : Option Nat :=
  if cs.all fun c => digitOf c < base then some (cs.foldl (fun n c => base * n + digitOf c) 0)
  else none

/-- The number that a text is: decimal, or with `0x` or `0` in front in base sixteen or eight. -/
def numberOf? : List Char → Option Int
  | '0' :: 'x' :: cs => (inBase 16 cs).map Int.ofNat
  | '0' :: 'X' :: cs => (inBase 16 cs).map Int.ofNat
  | '0' :: cs => (inBase 8 cs).map Int.ofNat
  | cs => if cs.isEmpty then none else (inBase 10 cs).map Int.ofNat

/-- The number that a text with an optional sign and blanks around it is. -/
def signedNumber? (cs : List Char) : Option Int :=
  let isSpace (c : Char) : Bool := c = ' ' || c = '\t' || c = '\n'
  let cs := ((cs.dropWhile isSpace).reverse.dropWhile isSpace).reverse
  match cs with
  | '-' :: cs => (numberOf? cs).map fun n => -n
  | '+' :: cs => numberOf? cs
  | cs => numberOf? cs

/-- The tokens of an expression. -/
def sumTokens : Nat → List Char → Option (List SumToken)
  | 0, _ => none
  | _, [] => some []
  | budget + 1, c :: rest =>
    if c = ' ' || c = '\t' || c = '\n' then sumTokens budget rest
    else if '0' ≤ c && c ≤ '9' then do
      let isPart (c : Char) : Bool := digitOf c < 16 || c = 'x' || c = 'X'
      let (digits, rest) := (c :: rest).span isPart
      return .number (← numberOf? digits) :: (← sumTokens budget rest)
    else if c.isAlpha || c = '_' then do
      let (name, rest) := (c :: rest).span fun c => c.isAlphanum || c = '_'
      return .name name :: (← sumTokens budget rest)
    else
      match sumSigns.find? fun s => s.toList.isPrefixOf (c :: rest) with
      | none => none
      | some s => (sumTokens budget ((c :: rest).drop s.length)).map (.sign s :: ·)

/-- How strongly an operator binds. -/
def rank : String → Option Nat
  | "||" => some 1
  | "&&" => some 2
  | "|" => some 3
  | "^" => some 4
  | "&" => some 5
  | "==" => some 6
  | "!=" => some 6
  | "<" => some 7
  | "<=" => some 7
  | ">" => some 7
  | ">=" => some 7
  | "<<" => some 8
  | ">>" => some 8
  | "+" => some 9
  | "-" => some 9
  | "*" => some 10
  | "/" => some 10
  | "%" => some 10
  | _ => none

/-- A truth value as a number. -/
def truth (b : Bool) : Int := if b then 1 else 0

/-- The value of an operator. -/
def operate (s : String) (a b : Int) : Option Int :=
  match s with
  | "||" => some (truth (a ≠ 0 || b ≠ 0))
  | "&&" => some (truth (a ≠ 0 && b ≠ 0))
  | "|" => some (Int.ofNat (a.toNat ||| b.toNat))
  | "^" => some (Int.ofNat (a.toNat ^^^ b.toNat))
  | "&" => some (Int.ofNat (a.toNat &&& b.toNat))
  | "==" => some (truth (a = b))
  | "!=" => some (truth (a ≠ b))
  | "<" => some (truth (a < b))
  | "<=" => some (truth (a ≤ b))
  | ">" => some (truth (b < a))
  | ">=" => some (truth (b ≤ a))
  | "<<" => some (a * Int.ofNat (Nat.pow 2 b.toNat))
  | ">>" => some (Int.fdiv a (Int.ofNat (Nat.pow 2 b.toNat)))
  | "+" => some (a + b)
  | "-" => some (a - b)
  | "*" => some (a * b)
  | "/" => if b = 0 then none else some (Int.tdiv a b)
  | "%" => if b = 0 then none else some (Int.tmod a b)
  | _ => none

mutual

/-- Reads an expression whose operators bind at least so strongly. -/
def sumFrom (value : List Char → Option Int) : Nat → Nat → List SumToken →
    Option (Int × List SumToken)
  | 0, _, _ => none
  | budget + 1, least, ts => do
    let (a, ts) ← sumOperand value budget ts
    let (a, ts) ← sumRest value budget least a ts
    match ts with
    | .sign "?" :: ts =>
      if least = 0 then
        let (yes, ts) ← sumFrom value budget 0 ts
        match ts with
        | .sign ":" :: ts =>
          let (no, ts) ← sumFrom value budget 0 ts
          return (if a ≠ 0 then yes else no, ts)
        | _ => none
      else return (a, .sign "?" :: ts)
    | _ => return (a, ts)

/-- Reads operators and operands behind a value. -/
def sumRest (value : List Char → Option Int) : Nat → Nat → Int → List SumToken →
    Option (Int × List SumToken)
  | 0, _, _, _ => none
  | budget + 1, least, a, ts =>
    match ts with
    | .sign s :: rest =>
      match rank s with
      | none => some (a, ts)
      | some r =>
        if r < least then some (a, ts)
        else
          match sumFrom value budget (r + 1) rest with
          | none => none
          | some (b, rest) =>
            match operate s a b with
            | none => none
            | some c => sumRest value budget least c rest
    | _ => some (a, ts)

/-- Reads an operand. -/
def sumOperand (value : List Char → Option Int) : Nat → List SumToken →
    Option (Int × List SumToken)
  | 0, _ => none
  | budget + 1, ts =>
    match ts with
    | .number n :: ts => some (n, ts)
    | .name cs :: ts => (value cs).map fun n => (n, ts)
    | .sign "-" :: ts => (sumOperand value budget ts).map fun (n, ts) => (-n, ts)
    | .sign "+" :: ts => sumOperand value budget ts
    | .sign "!" :: ts => (sumOperand value budget ts).map fun (n, ts) => (truth (n = 0), ts)
    | .sign "~" :: ts => (sumOperand value budget ts).map fun (n, ts) => (-n - 1, ts)
    | .sign "(" :: ts =>
      match sumFrom value budget 0 ts with
      | some (n, .sign ")" :: ts) => some (n, ts)
      | _ => none
    | _ => none

end

/-- The value of an expression, in which names stand for values; no text at all is zero. -/
def arithmetic? (value : List Char → Option Int) (cs : List Char) : Option Int := do
  let ts ← sumTokens (cs.length + 1) cs
  if ts.isEmpty then return 0
  match sumFrom value (8 * ts.length + 8) 0 ts with
  | some (n, []) => some n
  | _ => none

end LintVerdict.Shell
