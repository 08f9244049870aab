import LintVerdict.Decimal.Numeral

/-!
# Dates and times

A document may hold dates, times of a day, and both together with an offset. They are only told
from other words, since nothing is decided by them.

## Main definitions

* `isMoment`: whether a word is a date, a time or both.
* `joinTime`: a date with the time behind a blank.
-/

namespace LintVerdict.Toml

open Decimal (isDigit readDigits)

/-- Two digits with a value in a range, and what stands behind them. -/
def twoDigits? (lo hi : Nat) : List Char → Option (Nat × List Char)
  | a :: b :: rest =>
    let n := readDigits 0 [a, b]
    if isDigit a && isDigit b && lo ≤ n && n ≤ hi then some (n, rest) else none
  | _ => none

/-- How many days a month has. -/
def daysIn (year month : Nat) : Nat :=
  if month = 2 then
    if year % 4 = 0 && (year % 100 ≠ 0 || year % 400 = 0) then 29 else 28
  else if [4, 6, 9, 11].contains month then 30
  else 31

/-- What stands behind a date. -/
def behindDate? : List Char → Option (List Char)
  | a :: b :: c :: d :: '-' :: rest =>
    if [a, b, c, d].all isDigit then
      match twoDigits? 1 12 rest with
      | some (month, '-' :: rest) =>
        (twoDigits? 1 (daysIn (readDigits 0 [a, b, c, d]) month) rest).map (·.2)
      | _ => none
    else none
  | _ => none

/-- What stands behind the seconds of a time, which may be left out, and their fraction. -/
def behindSeconds? : List Char → Option (List Char)
  | ':' :: rest =>
    match twoDigits? 0 60 rest with
    | some (_, '.' :: rest) =>
      let (digits, rest) := rest.span isDigit
      if digits.isEmpty then none else some rest
    | some (_, rest) => some rest
    | none => none
  | cs => some cs

/-- What stands behind a time. -/
def behindTime? (cs : List Char) : Option (List Char) :=
  match twoDigits? 0 23 cs with
  | some (_, ':' :: rest) => (twoDigits? 0 59 rest).bind fun (_, rest) => behindSeconds? rest
  | _ => none

/-- Whether a text is an offset of a time, or nothing. -/
def isOffset : List Char → Bool
  | [] => true
  | 'Z' :: rest => rest.isEmpty
  | 'z' :: rest => rest.isEmpty
  | sign :: rest =>
    (sign = '+' || sign = '-') &&
      match twoDigits? 0 23 rest with
      | some (_, ':' :: rest) => (twoDigits? 0 59 rest).any fun (_, rest) => rest.isEmpty
      | _ => false

/-- Whether a text is a time with or without an offset. -/
def isTime (cs : List Char) : Bool := (behindTime? cs).any isOffset

/-- Whether a word is a date, a time or both. A time alone has no offset. -/
def isMoment (cs : List Char) : Bool :=
  match behindDate? cs with
  | some [] => true
  | some (c :: rest) => (c = 'T' || c = 't' || c = ' ') && isTime rest
  | none => behindTime? cs = some []

/-- A word with what follows it in a text. When the word is a date, a blank and a time that follow
belong to it. -/
def joinTime (ends : Char → Bool) (word rest : List Char) : List Char × List Char :=
  match rest with
  | ' ' :: more =>
    let (time, behind) := more.span fun c => !ends c
    if behindDate? word = some [] && isTime time then (word ++ ' ' :: time, behind)
    else (word, rest)
  | _ => (word, rest)

end LintVerdict.Toml
