import LintVerdict.Unicode.Table

/-!
# Boundaries in texts

Where a text breaks into what is seen as characters, into words and into sentences is told by three
properties. Each gives a value to every character.

## Main definitions

* `ValuedProperty`: a property that gives a value to every character.
* `graphemeBreak`, `wordBreak`, `sentenceBreak`: the properties.
* `breakRanges?`: the ranges of the characters with a value.
-/

namespace LintVerdict.Unicode

/-- A property that gives a value to every character. Names are in the form of `Table.looseName`. -/
structure ValuedProperty where
  /-- The names of the property. -/
  names : List String
  /-- The labels of its values, each with the names of the value. The value of the other characters
  has none. -/
  values : List (String × List String)
  /-- The written form of the values, see `Table.runs`. -/
  table : List String

/-- The ranges of the characters with the value of a name. -/
def ValuedProperty.ranges? (p : ValuedProperty) (value : String) : Option (List (Nat × Nat)) :=
  (p.values.find? fun row => row.2.contains value).map fun row =>
    (Table.runs p.table).filterMap fun (lo, hi, label) =>
      if label = row.1 then some (lo, hi) else none

/-- What a character does at the edge of what is seen as one. -/
def graphemeBreak : ValuedProperty where
  names := ["gcb", "graphemeclusterbreak"]
  values :=
    [("C", ["cn", "control"]), ("R", ["cr"]), ("E", ["ex", "extend"]), ("L", ["l"]), ("F", ["lf"]),
     ("A", ["lv"]), ("B", ["lvt"]), ("P", ["pp", "prepend"]), ("I", ["regionalindicator", "ri"]),
     ("S", ["sm", "spacingmark"]), ("T", ["t"]), ("V", ["v"]), ("Z", ["zwj"])]
  table := [
    "0C aF 1C 2R 1C iO 2nC xO dC 1O giE 34O 7nE 7O 7bE 19O 1E 1O 1E 2O 1E 2O 1E 1O 1kP 6O aE bO",
    "1C 1O 1aE lO gE 1O 2tE 7P 1O 1E 6O 2E 2O 1E 4O xP 1O 1E 1O uE rO 2jE bO 1mE 9O 9E 1O oE 4O",
    "1E 9O 1E 3O 1E 5O 17E 3O 1gP 2O 5E 9O 16E oP 1E wS 1O 1iE 1S 1E 1O 1S 3E 8S 4E 1S 2O 1E 7O",
    "aE 2O tE 1S 2O 1kE 1O 1E 1S 2E 4O 2S 2O 2S 2E 1O 9E 1O aE 2O qE 1O 2E 2S 1O 1kE 1O 1S 3E 2O",
    "4E 2O 2E 3O 3E 1O uE 2O 3E 1O bE 2S 1O 1kE 1O 1S 3E 5O 1E 2S 1O 1S 2E 1O kE 2O mE 6O 1E 1S",
    "2O 1kE 1O 1E 2S 1E 4O 2S 2O 2S 2E 1O 7E 3O aE 2O uE 1O 1nE 1S 1E 1S 2O 3S 3O 1S 3E 1O 9E 1O",
    "14E 1S 3E 1O 1jE 1O 1E 3S 4O 1E 3O 1E 4O 7E 2O bE 2O tE 1S 2O 1kE 1O 1S 1E 2S 1E 1S 2O 1E 3O",
    "1E 4O 7E 2O bE 2O fS 1O cE 2S 2O 1jE 2O 1E 1S 2E 4O 1S 3O 1S 3E 1P 1O 8E 1O aE 2O tE 1S 2O",
    "1yE 1O 4E 1S 2E 3O 1E 1O 1S 7E 1O iS 2O 1pE 1O 1S 1E 7O cE 8O 2qE 1O 1S 1E 9O bE 7O 21E 2O",
    "rE 1O 1E 1O 1E 1O 4S 2O 1dE eS 1E 5O 1E 2O 5E bO 1E 10O 9E 1O 2uE 4S 1E 6O 1E 2S 2E 2O nS 2E",
    "2O 4E 3O gE 4O dE 1O 1S 1E 2O 6E 1O fE 1O 2qL 2oV 20T 2gO 9pE 3O qaE 4O sE 3O tE 2O uE 2O",
    "1sE 2S 1E 7S 8E 1S 2E bO 9E 1O 19E 3C 1E 1O 39E 2O yE 1O 3aE 3S 4E 2S 3O 4S 2E 1S 6E 3O 63E",
    "2S 2E 1O 1lS 1E 1S 1E 7O 1E 1O 1E 1O 2E 8S 6E aO 2E 1O 1cE vO 1dE 4S 1O 1bE aS 4E 3O 12E 9O",
    "cE 2S 1O uS 1E 4S 2E 6O 1kE 1S 1E 2S 3E 1S 1E 5O 1cS 8E 8S 2E 2O 48E 3O 1E dS 1E 7O 4E 1O 6E",
    "1O 2S 1E 2O 5iE 1sO ejC 1E 1Z 1C 2O oC 7O 1dC gO 2oE xO 2daE 3O 3xE 1O 2oE wO feE 6O 2xE 2O",
    "n9wE 4O 1E aO wE 2O 28E 2O 7kE 1O 3E 1O 4E 1O nS 2E 2S 1O 4E 1O 2bS 2O 1eS gE 2O qE iO dE 1O",
    "12E 8O pE bS 1E 1O cL tO 3E 3S 1O 1bE 1S 2E 4S 2E 2S 2E 1O 10E 1O 1vE 6S 2E 2S 2E 2O cE 1O",
    "8E 1S 1O 1aE 1O 1fE 1O 1E 3O 2E 2O 5E 2O 1E 1O 15S 1E 2S 2O 5S 1E 1O 6kS 2E 1S 2E 1S 2O 1S",
    "1E 1O iA 1B rA 1B rA 1B rA 1B rA 1B rA 1B rA 1B rA 1B rA 1B rA 1B rA 1B rA 1B rA 1B rA 1B rA",
    "1B rA 1B rA 1B rA 1B rA 1B rA 1B rA 1B rA 1B rA 1B rA 1B rA 1B rA 1B rA 1B rA 1B rA 1B rA 1B",
    "rA 1B rA 1B rA 1B rA 1B rA 1B rA 1B rA 1B rA 1B rA 1B rA 1B rA 1B rA 1B rA 1B rA 1B rA 1B rA",
    "1B rA 1B rA 1B rA 1B rA 1B rA 1B rA 1B rA 1B rA 1B rA 1B rA 1B rA 1B rA 1B rA 1B rA 1B rA 1B",
    "rA 1B rA 1B rA 1B rA 1B rA 1B rA 1B rA 1B rA 1B rA 1B rA 1B rA 1B rA 1B rA 1B rA 1B rA 1B rA",
    "1B rA 1B rA 1B rA 1B rA 1B rA 1B rA 1B rA 1B rA 1B rA 1B rA 1B rA 1B rA 1B rA 1B rA 1B rA 1B",
    "rA 1B rA 1B rA 1B rA 1B rA 1B rA 1B rA 1B rA 1B rA 1B rA 1B rA 1B rA 1B rA 1B rA 1B rA 1B rA",
    "1B rA 1B rA 1B rA 1B rA 1B rA 1B rA 1B rA 1B rA 1B rA 1B rA 1B rA 1B rA 1B rA 1B rA 1B rA 1B",
    "rA 1B rA 1B rA 1B rA 1B rA 1B rA 1B rA 1B rA 1B rA 1B rA 1B rA 1B rA 1B rA 1B rA 1B rA 1B rA",
    "1B rA 1B rA 1B rA 1B rA 1B rA 1B rA 1B rA 1B rA 1B rA 1B rA 1B rA 1B rA 1B rA 1B rA 1B rA 1B",
    "rA 1B rA 1B rA 1B rA 1B rA 1B rA 1B rA 1B rA 1B rA 1B rA 1B rA 1B rA 1B rA 1B rA 1B rA 1B rA",
    "1B rA 1B rA 1B rA 1B rA 1B rA 1B rA 1B rA 1B rA 1B rA 1B rA 1B rA 1B rA 1B rA 1B rA 1B rA 1B",
    "rA 1B rA 1B rA 1B rA 1B rA 1B rA 1B rA 1B rA 1B rA 1B rA 1B rA 1B rA 1B rA 1B rA 1B rA 1B rA",
    "1B rA 1B rA 1B rA 1B rA 1B rA 1B rA 1B rA 1B rA 1B rA 1B rA 1B rA 1B rA 1B rA 1B rA 1B rA 1B",
    "rA 1B rA 1B rA 1B rA 1B rA 1B rA 1B rA 1B rA 1B rA 1B rA 1B rA 1B rA 1B rA 1B rA 1B rA 1B rA",
    "1B rA 1B rA 1B rA 1B rA 1B rA 1B rA 1B rA 1B rA 1B rA 1B rA 1B rA 1B rA 1B rA 1B rA 1B rA 1B",
    "rA 1B rA 1B rA 1B rA 1B rA 1B rA 1B rA 1B rA 1B rA 1B rA 1B rA 1B rA 1B rA 1B rA 1B rA 1B rA",
    "1B rA 1B rA 1B rA 1B rA 1B rA 1B rA 1B rA 1B rA 1B rA 1B rA 1B rA 1B rA 1B rA 1B rA 1B rA 1B",
    "rA 1B rA 1B rA 1B rA 1B rA 1B rA 1B rA 1B rA 1B rA 1B rA 1B rA 1B rA 1B rA 1B rA 1B rA 1B rA",
    "1B rA 1B rA 1B rA 1B rA 1B rA 1B rA 1B rA 1B rA 1B rA 1B rA 1B rA 1B rA 1B rA 1B rA 1B rA 1B",
    "rA 1B rA 1B rA 1B rA 1B rA 1B rA 1B rA 1B rA 1B rA 1B rA 1B rA 1B rA 1B rA 1B rA 1B rA 1B rA",
    "1B rA 1B rA 1B rA 1B rA 1B rA 1B rA 1B rA 1B rA 1B rA 1B rA 1B rA 1B rA 1B rA 1B rA 1B rA 1B",
    "rA 1B rA 1B rA 1B rA 1B rA 1B rA 1B rA 1B rA 1B rA 1B rA 1B rA 1B rA 1B rA 1B rA 1B rA 1B rA",
    "1B rA 1B rA 1B rA 1B rA 1B rA 1B rA 1B rA 1B rA 1B rA 1B rA 1B rA 1B rA 1B rA 1B rA 1B rA 1B",
    "rA 1B rA 1B rA 1B rA 1B rA 1B rA 1B rA 1B rA 1B rA 1B rA 1B rA 1B rA 1B rA 1B rA 1B rA 1B rA",
    "1B rA 1B rA 1B rA 1B rA 1B rA 1B rA 1B rA 1B rA 1B rA 1B rA 1B rA 1B rA 1B rO cV nO 4T 1dO",
    "6xuE 1O khE gO gE gO 5rC 1O 4eE 2O 28C cO e9E 1O 6aE 1O 45E 5O 1aeE 3O 1E 2O 5E 4O 14E 3O 4E",
    "1O 4lE 2O fxE 4O 1tE 5O 8tE 2O 27E 4O 1yE bO 1dE 4O 3eS 1E 1S 1O 1hE fO 15E 1O 2E 2O aE 3S",
    "1O 19S 3E 4S 2E 2O 2P 1O 4E 1O aP 1O 1eE 3O 10E 5S 1E 8O gS 2O 18E 1O cE 2S 1O 1cS 3E 9S 1E",
    "1O 1P 2O 5E 4O 1S 1E 1O 2kS 3E 3S 2E 4O 6E 1O 2E 1O 4dE 1S 3E 8O lE 2S 2O 1jE 2O 1E 1S 1E 1S",
    "4O 2S 2O 2S 2E 1O 9E 1O aS 2O 2E 7O 3E 5O 1vE 1S 2E 6O 1E 1O 2E 1O 1E 3S 1O 1S 2E 3P 1E 1O",
    "eE 2O 2aS 3E 8S 2E 3S 1E 1O nE 1O 29E 1S 2E 6S 1E 1S 2E 1S 1E 2S 1E 2O 6jE 1S 2E 4O 2S 4E 2S",
    "1E 2O rE 2O 2aS 3E 8S 2E 1S 1E 2O 2yE 1S 1E 1S 2E 8O 2tE 1S 1E 1O 2E 4S 1E 5O 74S 3E 9S 1E",
    "2O 6tE 1S 5O 1S 2O 2E 4P 1S 1P 1S 1E 1O 3xS 3E 4O 2E 2S 4E 1O 3S 1O sE aO 14E 6S 1P 1E 4O 8E",
    "1O 9E 6S 2E 3O 14P 6E dS 1E 2O b9S 1E 7O 1E 6S 1E 1O 2aE mO 1S 1E 7S 1E 2S 1E 2O 3eE 6O 3E",
    "1O 1E 2O 1E 7P 1E 1O 1uS 5O 1E 2O 1S 2E 1S 1E 1O 9nE 2S 2O 9E 2P 1S 1O 1cS 2E 5O 3S 2E 3O nE",
    "1O 445C gE 1O 6E fO 8ugE cS 3E 3O 1xcE 5O 1nE 7O fgV 1O 3V 4O dgE 1O 1S 1jO 7E 4O 29E 1O bE",
    "2O f57E 2O 1C 4O 3mkE 1aO 2E nO f2E 5O 3E 6C 8E 8O 2E 7O uE 4O 44E 3O 1izE 1jO 4E 1eO 8E 1O",
    "eE 1O mE 5O 1E fO 11sE 7O 1E hO 2E 7O 1E 2O 1E 5O 2sE 1O 4gE 7O afE 1O 1pE 4O e4E 4O 72E 2O",
    "kgE 7O 31E 7O 1p7I qO e3E 5O gx6oC wE 2oC 3kE 6oC 2s0O"]

/-- What it does at the edge of a word. -/
def wordBreak : ValuedProperty where
  names := ["wb", "wordbreak"]
  values :=
    [("R", ["cr"]), ("D", ["doublequote", "dq"]), ("X", ["ex", "extendnumlet"]), ("E", ["extend"]),
     ("C", ["fo", "format"]), ("H", ["hebrewletter", "hl"]), ("K", ["ka", "katakana"]),
     ("A", ["aletter", "le"]), ("F", ["lf"]), ("B", ["mb", "midnumlet"]),
     ("L", ["midletter", "ml"]), ("M", ["midnum", "mn"]), ("N", ["newline", "nl"]),
     ("U", ["nu", "numeric"]), ("I", ["regionalindicator", "ri"]), ("S", ["singlequote", "sq"]),
     ("W", ["wsegspace"]), ("Z", ["zwj"])]
  table := [
    "0O aF 1N 2R 1O iW 1O 1D 1O 4S 1O 4M 1O 1B 1O 1U aL 1M 1O 5A qO 4X 1O 1A qO aN 1O 10A 1O 2C",
    "1O 7A 1O 1L 1O 2A 1O 5A nO 1A vO 1A dcO 6A yE 34A 5O 1A 2O 2A 4M 1A 1O 6A 1L 1A 3O 1A 1O 1A",
    "kO 1A 2bO 1A 3vO 1E 7A 4mO 1A 12O 2A 4O 1A 1L 1A 15M 1A 1O 6E 19O 1E 1O 1E 2O 1E 2O 1E 1O 8H",
    "rO 4H 4A 1L 1O bC 6O 6M 2O 2E bO 1C 1O 3A 17E lU aO 1U 1M 1O 1A 2E 1A 2rO 1A 1E 7C 1O 1E 6A",
    "2E 2O 1E 4A 2U aA 3O 2A 1O fC 1A 1E 1A uE rO 2A 2hE bA 1O eU aA xE 9A 2O 2M 1O 1A 1O 2E 1O",
    "2A mE 4A 1E 9A 1E 3A 1E 5O iA pE 3O 4A bO 5A oO 1A 6O 1C 2O 5E 9A 16E oC 1E xA 1iE 3A 1E iA",
    "1E 7A aE 2O 2U aO 1A gE 3O 1A 8O 2A 2O 2A mO 1A 7O 1A 1O 3A 4O 2E 1A 1E 7O 2E 2O 2E 3A 1O 8E",
    "1O 4A 2O 1A 3E 2O 2U aA 2O aA 1O 1E 1O 2E 3O 1A 6O 4A 2O 2A mO 1A 7O 1A 2O 1A 2O 1A 2O 2E 1O",
    "1E 5O 4E 2O 2E 3O 3E 1O 7A 4O 1A 1O 7U aE 2A 3E 1O bE 3O 1A 9O 1A 3O 1A mO 1A 7O 1A 2O 1A 5O",
    "2E 1A 1E 8O 1E 3O 1E 3O 2A 1O fA 2E 2O 2U aO 9A 1E 6O 1E 3O 1A 8O 2A 2O 2A mO 1A 7O 1A 2O 1A",
    "5O 2E 1A 1E 7O 2E 2O 2E 3O 7E 3O 4A 2O 1A 3E 2O 2U aO 1A 1O gE 1A 1O 1A 6O 3A 3O 1A 4O 3A 2O",
    "1A 1O 1A 2O 3A 2O 3A 3O 3A cO 4E 5O 3E 3O 1E 4O 2A 1O 6E 1O eU aO gE 5A 8O 1A 3O 1A nO 1A gO",
    "2E 1A 1E 7O 1E 3O 1E 4O 7E 2O 1A 3O 2A 1O 2A 2E 2O 2U aO gA 1E 3O 1A 8O 1A 3O 1A nO 1A aO 1A",
    "5O 2E 1A 1E 7O 1E 3O 1E 4O 7E 2O 6A 2O 1A 2E 2O 2U aO 1A 2E 1O cE 4A 9O 1A 3O 1A 15E 2A 1E",
    "7O 1E 3O 1E 4A 1O 5A 3E 1O 7A 3E 2O 2U aO aA 6O 1E 3O 1A iO 3A oO 1A 9O 1A 1O 2A 7O 3E 1O 4E",
    "6O 1E 1O 1E 8O 6U aO 2E 2O 1pE 1O 2E 7O cE 8O 1U aO 2fE 1O 2E 9O bE 7O 1U aO 12A 1O nE 2O 6U",
    "aO bE 1O 1E 1O 1E 1O 4E 2A 8O 1A 10O 4E kO 1E 2A 5E bO 1E 10O 9E 1O 2sE kO 1U aO cE 4O 4E 3O",
    "1E 3O 2E 7O 3E 4O dE cO 1E 1U aE 4O 2A 12O 1A 1O 5A 1O 2A 17O 1A 99O 1A 4O 2A 7O 1A 1O 1A 4O",
    "2A 15O 1A 4O 2A xO 1A 4O 2A 7O 1A 1O 1A 4O 2A fO 1A 1lO 1A 4O 2A 1vO 2E 3O wA gO gA 2eO 2A",
    "6O 3A h8O 2A hW 1A qO 5A 23O 3A bO 7A iE 4O 9A jE 3O bA iE 2O cA dO 1A 3O 1E 2O 1sE wO 9E 1O",
    "2U aO xE 3C 1E 1U aO 6A 2hO 7A 5E 2A yE 1A 1O 5A 1yO aA vO 1E cO 4E cO aU aO 3kU aO 12A nE",
    "5O 1lE aO 1E tO 2E 1U aO 6U aO mE vO 1dE 5A 1bE hA 8O 3U aO hE 9O cE 3A uE dA 2U aA 18E eO",
    "cA 10E kO 8U aO 3A 3U aA 10O 2A bO 5A 17O 2A 3O gE 3O 1E lA 4E 1A 6E 1A 2E 3A 1O 5A 5cE 1sA",
    "7qO 2A 6O 2A 12O 2A 6O 2A 8O 1A 1O 1A 1O 1A 1O 1A vO 2A 1hO 1A 7O 1A 1O 3A 3O 1A 7O 3A 4O 2A",
    "6O 4A dO 5A 3O 1A 7O 3W 7O 1W 3O 1E 1Z 1C 2O 8B 2O aB 1O 2L 1N 2C 5X 1O fX 2O 3M 1O fX 1O aW",
    "1C 5O 1C aO 1A 1O dA 1O gA dO 1fE xO hA 1O 4A 1O 2A aO 1A 1O 3A 5O 6A 1O 1A 1O 1A 1O 1A 4O",
    "1A bO 2A 4O 5A 5O 4A 1O hA 15O mlA 1gO 1eeA 6dO 6A 4E 3A 2O cA 12O 1A 1O 5A 1O 2A 1kO 7A 1O",
    "fE 1A nO 9A 7O 1A 7O 1A 7O 1A 7O 1A 7O 1A 7O 1A 7O 1A 7O 1E wO 1bA 1O cwW 1O 4A 1O 10E 6O 1K",
    "5O 5A 2O 2kE 2K 2O 3K 2jO 1K 4O 5A 17O 1A 2mO hA wO 1cK gO 5sK 1bO 1K 2gO lgoA wdO 1vA 1aO",
    "2A 7hO 3A gU aA 2O kA 1bE 4O 1E aO 1A vE 2A 28E 2O mA 5iO 2A 2O 1A 1O 1A 8O lA gE 1A 3E 1A",
    "4E 1A nE 5O 4E 1O jA 1gO cE 2A 1eE iO aU aO 6E iA 6O 3A 1O 1A 2E 1U aA sE 8O 2A nE dO cA tO",
    "3E 4A 1bE eO eA 1U aO bE 1O aU aO 6A 15E eO 9A 3E 1A 8E 2O 2U aO xE 3O 1eE 1O 1E 3O 2E 2O 5E",
    "2O 1E 1O uA bE 5O 2A 3E 2O aA 6O 2A 6O 2A 6O 9A 7O 1A 7O 1A 1mO 6A 37E 8O 1E 2O 2U aO 6A",
    "8mcO cA nO 4A 1dO 6x0A 7O cA 5O 5H 1E 1H aO 1H dO 1H 5O 1H 1O 1H 2O 1H 2O 1H aA 2qO xA a3O",
    "iA 1sO 2A 1iO 14A cO 4E gM 1O 2L 1M 1O bE gO 3X 2O oX 3M 1O 1B 1O 1M 1L 1O qA 5O 1A 3rO 2C",
    "1O 7B 1O 4M 1O 1B 1O 1U aL 1M 1O 5A qO 4X 1O 1A qO bK 1kE 2A vO 3A 6O 2A 6O 2A 6O 2A 3O sC",
    "3O 4A cO 1A qO 1A jO 1A 2O 1A fO 2A eO yA 3fO 1xA 1hO 3sE 1O 3mA tO 3A 1dO fE 1O vA wO dA uO",
    "5A 12E 5O 5A uO 2A 10O 4A 8O 1A 5O 16A 4eO 2U aO 6A 10O 4A 10O 4A 14O 8A 1gO cA bO 1A fO 1A",
    "7O 1A 2O 1A bO 1A fO 1A 7O 1A 2O 3A 1gO cA 8nO 9A mO aA 8O oA 6O 1A 16O 1A 9O 1xA 6O 2A 1O",
    "1A 18O 1A 2O 3A 1O 2A nO aA nO 9A vO 1tA jO 1A 2O aA mO aA qO 1yA 1kO 6A 2O 1sA 1E 3O 1E 2O",
    "5E 4A 4O 1A 3O 1A tO 2E 3O 4E 1O wA tO 3A tO zA 8O 1A sE 2O pA 1iO aA mO aA jO dA iO 32A 21O",
    "1jA 1fO dA 1fO dA 10E 4O 8U aO 6U aA sO 3E 5O 1A nO 6yA 16O 1E 2O 3A 2O gA 3O 1jE 4A tO aA",
    "1O 8A mE bO vA iE 4O 16A lO rA nO 9E 3A 1hE fO vU aE 1A 2E 2A 1O 9E 4A 19E bO 2C 1O 4E 1O aC",
    "1O 2A pO 7U aO 6E 3A 10E eO 1U aO 4A 1E 2A 1O 8A zE 1O 2A 1O 9E 3A 1cE eA 4O 4E 4O 1E 2U aA",
    "1O 1A 1O zA iO 1A pE cO 6E 1A 2E 1O 1qA 7O 1A 1O 1A 4O 1A fO 1A aO 7A 1bE cO 5U aO 6E 4O 1A",
    "8O 2A 2O 2A mO 1A 7O 1A 2O 1A 5O 1E 2A 1E 7O 2E 2O 2E 3O 2A 1O 6E 1O 5A 5E 2O 2E 7O 3E 5O bA",
    "aO 1A 1O 2A 1O 1A 12O 1A 1E 9O 1E 1O 2E 1O 1E 4O 1E 5A 1E 1A 1O dE 2O tA 1hE iA 4O 5U aO 4E",
    "1A 3O uA 1cE kA 2O 1A 1O 8U aO 4mA 1bE 7O 2E 9O nA 4E 2O yA 1cE hO 3A 1O bU aO 12A 17E dA 1O",
    "7U aO 6U kO 1lE fO 4U aO 5iA 18E fO 2tA 1sU aO lA 8O 2A 1O 2A 8O 1A 2O 1A oE 6O 1E 2O 2E 4A",
    "1E 1A 1E 2O cU aO 1yA 8O 2A 13E 7O 2E 7A 1O 1A 1E 1O rA 1E aA 14E 7A 1E 4O 8E 1O 8A 1E bA",
    "1aE gO 3A 1O iA 21O 5jA xO fU aO 6A 9O 1A 11E 8O 1E 8A 1O fU aO oA uO 2E mO 1E eO 21A 7O 1A",
    "2O 1A 12E 6O 3E 1O 1E 2O 1E 7A 1E 1O 8U aO 6A 6O 1A 2O 1A wE 5O 1E 2O 1E 5A 1O 7U aO 8mA jE",
    "4O 9E 2A 1E 1A dO 1A yE 7O 3E 5O dU aE 1O 2dA 1O 27A pmO 2uA 33O hA 5gO 218A 2pO fA tsC gE",
    "1A 6E fO aA 32zO 5A g7O 5a1A uE iU aO 1c6A ftO 7A vO 1U aO 6A 27O 1U aO 6A uO 2E 5O bA 1cE",
    "7O 9A 4O cU aO 9A lO 5A jO c0A 19O 3U aO 5iA 1sO 3kA 23O 4E 1A 1E 1jO 7E 4A dO 1sA 2O 1A 1E",
    "1O bE 2O cn2K 4O 1K 7O 1K 2O 1K 1O 7zK 3O 1eK 1O eK 4O 23cA 2zO 5A dO 3A 9O 7A aO 3E 2O 1C",
    "4O 37wU aO eeE 1aO 2E nO f2E 5O 3E 6C 8E 8O 2E 7O uE 4O 44E 3O cbA 2dO 1A 1zO 1A 2O 2A 1O 2A",
    "2O 2A 4O 1A cO 1A 1O 1A 7O 1A 1tO 1A 4O 2A 8O 1A 7O 1A sO 1A 4O 1A 5O 1A 1O 3A 7O 1A 9gO 2A",
    "pO 1A pO 1A vO 1A pO 1A vO 1A pO 1A vO 1A pO 1A vO 1A pO 1A 8O 2U 1eO e8E 1jO 4E 1eO 8E 1O",
    "eE 1O mE 5O 1E fO uoA vO 6A 6O 5xE 7O 1E hO 2E 7O 1E 2O 1E 5O 5A 1qO xE 1O 34A 19O 3E 7A 7O",
    "2U aO 4A 1O 8xA uE 1O hA 18E 4U aO d2A sE 4U aO 5yA uE 2A 1U aO dhA 7O 1A 4O 1A 2O 1A fO 1A",
    "5hO bE 7O 15A 1wE 7A 1O 4U aO x2A 4O 1A rO 1A 2O 1A 1O 2A 1O 1A aO 1A 4O 1A 1O 1A 1O 6A 1O",
    "4A 1O 1A 1O 1A 1O 1A 3O 1A 2O 1A 1O 2A 1O 1A 1O 1A 1O 1A 1O 1A 1O 1A 2O 1A 1O 2A 4O 1A 7O 1A",
    "4O 1A 4O 1A 1O 1A aO 1A hO 5A 3O 1A 5O 1A hO hgA qO 6A qO 6A qO 2kI qO e3E 5O 1kgU aO gvlzC",
    "1O uE 2oO 3kE 6oO"]

/-- What it does at the edge of a sentence. -/
def sentenceBreak : ValuedProperty where
  names := ["sb", "sentencebreak"]
  values :=
    [("T", ["at", "aterm"]), ("B", ["cl", "close"]), ("R", ["cr"]), ("E", ["ex", "extend"]),
     ("C", ["fo", "format"]), ("A", ["le", "oletter"]), ("F", ["lf"]), ("L", ["lo", "lower"]),
     ("N", ["nu", "numeric"]), ("S", ["sc", "scontinue"]), ("P", ["se", "sep"]), ("W", ["sp"]),
     ("D", ["st", "sterm"]), ("U", ["up", "upper"])]
  table := [
    "0O 9W 1F 1W 2R 1O iW 1D 1B 1O 4B 3O 2S 2T 1O 1N aS 1O 4D 1O 1U qB 1O 1B 1O 3L qB 1O 1B 1O 7P",
    "1O qW 1O 9L 1B 1O 1C 1O 7L 1O 4L 1B 1O 4U nO 1U 7L oO 1L 8U 1L 1U 1L 1U 1L 1U 1L 1U 1L 1U 1L",
    "1U 1L 1U 1L 1U 1L 1U 1L 1U 1L 1U 1L 1U 1L 1U 1L 1U 1L 1U 1L 1U 1L 1U 1L 1U 1L 1U 1L 1U 1L 1U",
    "1L 1U 1L 1U 1L 1U 1L 1U 1L 1U 1L 1U 1L 2U 1L 1U 1L 1U 1L 1U 1L 1U 1L 1U 1L 1U 1L 1U 1L 2U 1L",
    "1U 1L 1U 1L 1U 1L 1U 1L 1U 1L 1U 1L 1U 1L 1U 1L 1U 1L 1U 1L 1U 1L 1U 1L 1U 1L 1U 1L 1U 1L 1U",
    "1L 1U 1L 1U 1L 1U 1L 1U 1L 1U 1L 1U 1L 1U 2L 1U 1L 1U 1L 3U 2L 1U 1L 1U 2L 1U 3L 2U 4L 1U 2L",
    "1U 3L 3U 2L 1U 2L 1U 1L 1U 1L 1U 2L 1U 1L 2U 1L 1U 2L 1U 3L 1U 1L 1U 2L 2A 1U 1L 3A 4U 2L 1U",
    "2L 1U 2L 1U 1L 1U 1L 1U 1L 1U 1L 1U 1L 1U 1L 1U 1L 1U 1L 2U 1L 1U 1L 1U 1L 1U 1L 1U 1L 1U 1L",
    "1U 1L 1U 1L 1U 1L 2U 2L 1U 1L 1U 3L 1U 1L 1U 1L 1U 1L 1U 1L 1U 1L 1U 1L 1U 1L 1U 1L 1U 1L 1U",
    "1L 1U 1L 1U 1L 1U 1L 1U 1L 1U 1L 1U 1L 1U 1L 1U 1L 1U 1L 1U 1L 1U 1L 1U 1L 1U 1L 1U 1L 1U 1L",
    "1U 1L 1U 1L 1U 1L 1U 1L 7U 2L 1U 2L 2U 1L 1U 4L 1U 1L 1U 1L 1U 1L 1U 1L 1xA 1L 10A 7L 2O 4A",
    "cO eL 5O 7A 1O 1A 1O hE 34U 1L 1U 1L 1A 1O 1U 1L 1O 2L 4O 1U 1O 6U 1O 1U 3O 1U 1O 1U 2L 1U",
    "hO 1U 9L zU 1L 2U 3L 3U 1L 1U 1L 1U 1L 1U 1L 1U 1L 1U 1L 1U 1L 1U 1L 1U 1L 1U 1L 1U 1L 1U 1L",
    "5U 1L 1O 1U 1L 1U 2L 2U 1fL 1cU 1L 1U 1L 1U 1L 1U 1L 1U 1L 1U 1L 1U 1L 1U 1L 1U 1L 1U 1L 1U",
    "1L 1U 1L 1U 1L 1U 1L 1U 1L 1U 1L 1U 1L 1O 1E 7U 1L 1U 1L 1U 1L 1U 1L 1U 1L 1U 1L 1U 1L 1U 1L",
    "1U 1L 1U 1L 1U 1L 1U 1L 1U 1L 1U 1L 1U 1L 1U 1L 1U 1L 1U 1L 1U 1L 1U 1L 1U 1L 1U 1L 1U 1L 1U",
    "1L 1U 1L 1U 1L 1U 1L 1U 2L 1U 1L 1U 1L 1U 1L 1U 1L 1U 1L 1U 1L 2U 1L 1U 1L 1U 1L 1U 1L 1U 1L",
    "1U 1L 1U 1L 1U 1L 1U 1L 1U 1L 1U 1L 1U 1L 1U 1L 1U 1L 1U 1L 1U 1L 1U 1L 1U 1L 1U 1L 1U 1L 1U",
    "1L 1U 1L 1U 1L 1U 1L 1U 1L 1U 1L 1U 1L 1U 1L 1U 1L 1U 1L 1U 1L 1U 1L 1U 1L 1U 1L 1U 1L 1U 1L",
    "1U 1L 1U 1L 1U 1L 1U 1L 1U 1L 1U 1L 1U 1L 1U 1L 1U 1L 1U 1L 1U 1L 1U 1L 1O 1U 12O 2A 1O 3S",
    "1O 2L 15D 1O 7E 19O 1E 1O 1E 2O 1E 2O 1E 1O 8A rO 4A 5O cC 6O 6S 2O 2E bO 1C 1D 3A 17E lN aO",
    "1N 2O 1A 2E 1A 2rD 1A 1E 7C 1O 1E 6A 2E 2O 1E 4A 2N aA 3O 2A 1D 3O cC 1A 1E 1A uE rO 2A 2hE",
    "bA 1O eN aA xE 9A 2O 2S 1D 1A 1O 2E 1O 2A mE 4A 1E 9A 1E 3A 1E 5O 9D 1O 1D 1O 3D 2O 1A pE 3O",
    "4A bO 5A oO 1A 6O 1C 2O 5E 9A 16E oC 1E xA 1iE 3A 1E iA 1E 7A aE 2D 2N aO 1A gE 3O 1A 8O 2A",
    "2O 2A mO 1A 7O 1A 1O 3A 4O 2E 1A 1E 7O 2E 2O 2E 3A 1O 8E 1O 4A 2O 1A 3E 2O 2N aA 2O aA 1O 1E",
    "1O 2E 3O 1A 6O 4A 2O 2A mO 1A 7O 1A 2O 1A 2O 1A 2O 2E 1O 1E 5O 4E 2O 2E 3O 3E 1O 7A 4O 1A 1O",
    "7N aE 2A 3E 1O bE 3O 1A 9O 1A 3O 1A mO 1A 7O 1A 2O 1A 5O 2E 1A 1E 8O 1E 3O 1E 3O 2A 1O fA 2E",
    "2O 2N aO 9A 1E 6O 1E 3O 1A 8O 2A 2O 2A mO 1A 7O 1A 2O 1A 5O 2E 1A 1E 7O 2E 2O 2E 3O 7E 3O 4A",
    "2O 1A 3E 2O 2N aO 1A 1O gE 1A 1O 1A 6O 3A 3O 1A 4O 3A 2O 1A 1O 1A 2O 3A 2O 3A 3O 3A cO 4E 5O",
    "3E 3O 1E 4O 2A 1O 6E 1O eN aO gE 5A 8O 1A 3O 1A nO 1A gO 2E 1A 1E 7O 1E 3O 1E 4O 7E 2O 1A 3O",
    "2A 1O 2A 2E 2O 2N aO gA 1E 3O 1A 8O 1A 3O 1A nO 1A aO 1A 5O 2E 1A 1E 7O 1E 3O 1E 4O 7E 2O 6A",
    "2O 1A 2E 2O 2N aO 1A 2E 1O cE 4A 9O 1A 3O 1A 15E 2A 1E 7O 1E 3O 1E 4A 1O 5A 3E 1O 7A 3E 2O",
    "2N aO aA 6O 1E 3O 1A iO 3A oO 1A 9O 1A 1O 2A 7O 3E 1O 4E 6O 1E 1O 1E 8O 6N aO 2E 2O dA 1cE",
    "1A 2E 7O 5A 7E 8O 1N aO 13A 2O 1A 1O 1A 5O 1A oO 1A 1O 1A aE 1A 2E 9A 1O 2A 5O 1A 1O 1E 7O",
    "1N aO 2A 4O wA 1O nE 2O 6N aO bE 1O 1E 1O 1E 1B 4E 2A 8O 1A 10O 4E kO 1E 2A 5E bO 1E 10O 9E",
    "1O 1lA 17E kA 1N aD 2O 4A 6E 4A 4E 3A 1E 3A 2E 7A 3E 4A dE cA 1E 1N aE 4O 2U 12O 1U 1O 5U 1O",
    "2A 17O 1L 1A 98O 1A 4O 2A 7O 1A 1O 1A 4O 2A 15O 1A 4O 2A xO 1A 4O 2A 7O 1A 1O 1A 4O 2A fO 1A",
    "1lO 1A 4O 2A 1vO 2E 3O 2D 1O 4D 2O nA gO gU 2eO 2L 6O 3A h8O 1D 1A hW 1A qB 2O 3A 23O 3A bO",
    "7A iE 4O 9A jE 3D 2O 9A iE 2O cA dO 1A 3O 1E 2O cA 1gE wO 3A 1O 4A 1E 1O 2N aO oS 1D 1O 4S",
    "1D 1O 1E 3C 1E 1N aO 6A 2hO 7A 5E 2A yE 1A 1O 5A 1yO aA vO 1E cO 4E cO 8D 2N aA uO 2A 5O bA",
    "18O 4A qO 6N aO 12A nE 5O 4A 1hE aO 1E tO 2E 1N aO 6N aO dA 1D 4O 4E vO 1dE 5A 1bE hA 8O 1D",
    "2N aD 2O 2D 2O bE 9O 9D 3E 3A uE dA 2N aA 18E eO cA 10E kO 3D 2O 3N aO 3A 3N aA 10D 2L 9U 1L",
    "1O 5A 17O 2A 3O gE 3O 1E lA 4E 1A 6E 1A 2E 3A 1O 5L 5cE 1sU 1L 1U 1L 1U 1L 1U 1L 1U 1L 1U 1L",
    "1U 1L 1U 1L 1U 1L 1U 1L 1U 1L 1U 1L 1U 1L 1U 1L 1U 1L 1U 1L 1U 1L 1U 1L 1U 1L 1U 1L 1U 1L 1U",
    "1L 1U 1L 1U 1L 1U 1L 1U 1L 1U 1L 1U 1L 1U 1L 1U 1L 1U 1L 1U 1L 1U 1L 1U 1L 1U 1L 1U 1L 1U 1L",
    "1U 1L 1U 1L 1U 1L 1U 1L 1U 1L 1U 1L 1U 1L 1U 1L 1U 1L 1U 1L 1U 1L 1U 1L 1U 1L 1U 1L 1U 1L 1U",
    "1L 1U 1L 1U 1L 1U 1L 1U 1L 1U 1L 1U 1L 1U 1L 1U 1L 1U 1L 1U 1L 1U 1L 1U 1L 1U 1L 1U 1L 1U 1L",
    "1U 1L 1U 1L 1U 1L 1U 1L 1U 1L 1U 1L 1U 1L 9U 1L 1U 1L 1U 1L 1U 1L 1U 1L 1U 1L 1U 1L 1U 1L 1U",
    "1L 1U 1L 1U 1L 1U 1L 1U 1L 1U 1L 1U 1L 1U 1L 1U 1L 1U 1L 1U 1L 1U 1L 1U 1L 1U 1L 1U 1L 1U 1L",
    "1U 1L 1U 1L 1U 1L 1U 1L 1U 1L 1U 1L 1U 1L 1U 1L 1U 1L 1U 1L 1U 1L 1U 1L 1U 1L 1U 1L 1U 1L 1U",
    "1L 1U 1L 1U 1L 1U 1L 1U 1L 1U 1L 1U 1L 1U 1L 1U 1L 1U 1L 9U 8L 6O 2U 6O 2L 8U 8L 8U 8L 6O 2U",
    "6O 2L 8O 1U 1O 1U 1O 1U 1O 1U 1L 8U 8L eO 2L 8U 8L 8U 8L 8U 8L 5O 1L 2U 5O 1L 1O 3L 3O 1L 2U",
    "5O 3L 4O 2L 2U 4O 4L 8U 5O 5L 3O 1L 2U 5O 3W bC 1E 2C 2O 3S 2O 3B 8O 4T 1O 3P 2C 5W 1O 9B 2O",
    "1D 2O 7B 2D 3O lW 1C 5O 1C aO 1L 1O bB 2L 1O dB 2O 1L dO 1fE xO hU 1O 4U 1O 2L 1U 3L 2U 3L",
    "1O 1U 1O 3U 5O 6U 1O 1U 1O 1U 1O 1U 4O 1L 1U 4L 1A 4L 1O 2L 2U 2O 5U 1L 4O 4L 1O hU gL gA 3U",
    "1L 1A 4O anB 4O tB 2O azU qL qO hdB 6O 7B eO 27B 2O vB aO b7B mO 1rB 4O wB 2O eaU 1cL 1cU 1L",
    "1U 3L 2U 1L 1U 1L 1U 1L 1U 4L 1U 1L 2U 1L 8U 3L 1U 1L 1U 1L 1U 1L 1U 1L 1U 1L 1U 1L 1U 1L 1U",
    "1L 1U 1L 1U 1L 1U 1L 1U 1L 1U 1L 1U 1L 1U 1L 1U 1L 1U 1L 1U 1L 1U 1L 1U 1L 1U 1L 1U 1L 1U 1L",
    "1U 1L 1U 1L 1U 1L 1U 1L 1U 1L 1U 1L 1U 1L 1U 1L 1U 1L 1U 1L 1U 1L 1U 1L 1U 1L 1U 1L 1U 1L 1U",
    "1L 1U 1L 1U 1L 1U 1L 1U 1L 1U 1L 1U 1L 1U 1L 1U 1L 1U 1L 1U 1L 2O 6U 1L 1U 1L 1E 3U 1L 1O cL",
    "12O 1L 1O 5L 1O 2A 1kO 7A 1O fE 1A nO 9A 7O 1A 7O 1A 7O 1A 7O 1A 7O 1A 7O 1A 7O 1A 7O 1E wB",
    "eO eB 2O 2B aO 4D 1A 1O cD 1O 5B 1O gD 2B 8O bnW 1S 1D 1O 2A 3B aO 2B 8O 1B 3O 1A 9E 6O 1A",
    "5O 2A 5O 4A 2eO 2E 2O 2A 3O 1A 2iO 1A 4O 5A 17O 1A 2mO hA wO 1cA gO e8A 534O 1sA h3hO 1vA",
    "1aO 1D 1A 7hO 1D 2A gN aA 2O kU 1L 1U 1L 1U 1L 1U 1L 1U 1L 1U 1L 1U 1L 1U 1L 1U 1L 1U 1L 1U",
    "1L 1U 1L 1U 1L 1U 1L 1U 1L 1U 1L 1U 1L 1U 1L 1U 1L 1U 1L 1U 1L 1U 1L 1U 1L 1A 1E 4O 1E aO 1A",
    "1U 1L 1U 1L 1U 1L 1U 1L 1U 1L 1U 1L 1U 1L 1U 1L 1U 1L 1U 1L 1U 1L 1U 1L 1U 1L 1U 1L 3E 2A",
    "28E 2O 1D 1O 3D 1O vA 9O 2U 1L 1U 1L 1U 1L 1U 1L 1U 1L 1U 1L 1U 1L 3U 1L 1U 1L 1U 1L 1U 1L",
    "1U 1L 1U 1L 1U 1L 1U 1L 1U 1L 1U 1L 1U 1L 1U 1L 1U 1L 1U 1L 1U 1L 1U 1L 1U 1L 1U 1L 1U 1L 1U",
    "1L 1U 1L 1U 1L 1U 1L 1U 1L 1U 1L 1U 1L 1U 1L 1U 1L 1U 1L 1U 1L 1U 1L aU 1L 1U 1L 1U 2L 1U 1L",
    "1U 1L 1U 1L 1U 1L 1A 1O 2U 1L 1U 1L 1A 1U 1L 1U 1L 3U 1L 1U 1L 1U 1L 1U 1L 1U 1L 1U 1L 1U 1L",
    "1U 1L 1U 1L 1U 1L 1U 5L 1U 5L 1U 1L 1U 1L 1U 1L 1U 1L 1U 1L 1U 1L 1U 1L 1U 4L 1U 1L 1U 2L 1O",
    "2U 1L 1O 1L 1O 1L 1U 1L 1U 1L 1U 1L 1U 1O lL 3U 1L 1A 1L 3A 7E 1A 3E 1A 4E 1A nE 5O 4E 1O jA",
    "1gO 2D 2O 8E 2A 1eE iO 8D 2N aO 6E iA 6O 3A 1O 1A 2E 1N aA sE 8O 1D 1A nE dO cA tO 3E 4A 1bE",
    "eO 7D 2O 5A 1N aO 6A 5E 1A aN aA 5O 1A 15E eO 9A 3E 1A 8E 2O 2N aO 3D 3A nO 3A 1E 3A 1eE 1A",
    "1E 3A 2E 2A 5E 2A 1E 1A 1O oA 3O 2A bE 5D 2A 3E 2O aA 6O 2A 6O 2A 6O 9A 7O 1A 7O 1L 17O 1L",
    "eO 6L 28A zE 8D 1E 2O 2N aO 6A 8mcO cA nO 4A 1dO 6isA a6O 2A 2yO 12L 7O cL 5O 5A 1E 1A aO 1A",
    "dO 1A 5O 1A 1O 1A 2O 1A 2O 1A 30O xA a3B 2O gA 1sO 2A 1iO 14A cO 4E gS 2O 1S 1O 3B 2O 7E gO",
    "1S 2O 2B gO 2B 2O 7S 2T 1O 2S 1D 2S 1B 6O 4S 1O cA 5O 1A 3rO 2C 1O 1D 1O 6B 2O 2S 2T 1O 1N",
    "aS 1O 4D 1O 1U qB 1O 1B 1O 3L qB 1O 1B 1O 1B 2D 1B 2S 1O 1A 1kE 2A vO 3A 6O 2A 6O 2A 6O 2A",
    "3O sC 3O 4A cO 1A qO 1A jO 1A 2O 1A fO 2A eO yA 3fO 1xA 1hO 3sE 1O 3mA tO 3A 1dO fE 1O vA wO",
    "dA uO 5A 12E 5O 5A uO 2A 10O 4A 8O 1A 5O 16U 14L 14A 26O 2N aO 6U 10O 4L 10O 4A 14O 8A 1gO",
    "cU bO 1U fO 1U 7O 1U 2O 1L bO 1L fO 1L 7O 1L 2O 3A 1gO cA 8nO 9A mO aA 8O oL 1A 2L 3O 1L 16O",
    "1L 9O 1xA 6O 2A 1O 1A 18O 1A 2O 3A 1O 2A nO aA nO 9A vO 1tA jO 1A 2O aA mO aA qO 1yA 1kO 6A",
    "2O 1sA 1E 3O 1E 2O 5E 4A 4O 1A 3O 1A tO 2E 3O 4E 1O mD 2O 8A tO 3A tO zA 8O 1A sE 2O pA 1iO",
    "aA mO aA jO dA iO 32A 21O 1jU 1fO dL 1fO dA 10E 4O 8N aO 6N aA 6U mO 3E 5O 1A 1L mO 6yA 16O",
    "1E 2O 3A 2O gA 3O 1jE 4A tO aA 1O 8A mE bO 4D 5O mA iE 4D 4O 12A lO rA nO 9E 3A 1hE fD 2O tN",
    "aE 1A 2E 2A 1O 9E 4A 19E bO 2C 1D 4E 1O aC 1O 2A pO 7N aO 6E 3A 10E eO 1N aO 1D 3A 1E 2A 1O",
    "8A zE 1O 2A 1O 9E 3A 1cE eA 4D 2O 2E 4D 1E 2N aA 1O 1A 1O 1D 2O wA iO 1A pE cD 2O 1D 2O 1E",
    "1A 2E 1O 1qA 7O 1A 1O 1A 4O 1A fO 1A aD 1O 6A 1bE cO 5N aO 6E 4O 1A 8O 2A 2O 2A mO 1A 7O 1A",
    "2O 1A 5O 1E 2A 1E 7O 2E 2O 2E 3O 2A 1O 6E 1O 5A 5E 2O 2E 7O 3E 5O bA aO 1A 1O 2A 1O 1A 12O",
    "1A 1E 9O 1E 1O 2E 1O 1E 4O 1E 5A 1E 1A 1D 2O bE 2O tA 1hE iA 4D 2O 3N aO 4E 1A 3O uA 1cE kA",
    "2O 1A 1O 8N aO 4mA 1bE 7O 2E 9O 1D 2O 5D fA 4E 2O yA 1cE hD 2O 1A 1O bN aO 12A 17E dA 1O 7N",
    "aO 6N kO sA rO 2E fO 4N aO 2D 3O 1A 7O 55A 18E fO 2tU wL wN aO lA 8O 2A 1O 2A 8O 1A 2O 1A oE",
    "6O 1E 2O 2E 4A 1E 1A 1E 2D 1O 1D 1O 9N aO 1yA 8O 2A 13E 7O 2E 7A 1O 1A 1E 1O rA 1E aA 14E 7A",
    "1E 4O 3D 2O 3E 1O 8A 1E bA 1aE gO 1D 2A 1O iA 21O 5jA xO fN aO 6A 9O 1A 11E 8O 1E 8A 1D 2O",
    "dN aO oA uO 2E mO 1E eO 21A 7O 1A 2O 1A 12E 6O 3E 1O 1E 2O 1E 7A 1E 1O 8N aO 6A 6O 1A 2O 1A",
    "wE 5O 1E 2O 1E 5A 1O 7N aO 8mA jE 4D 2O 7E 2A 1E 1A dO 1A yE 7O 3E 5D 2O bN aE 1O 2dA 1O 27A",
    "pmO 2uA 33O hA 5gO 218A 2pO fA tsC gE 1A 6E fO aA 32zO 5A g7O 5a1A uE iN aO 1c6A ftO 7A vO",
    "1N aO 4D 2A 27O 1N aO 6A uO 2E 5D 1O aA 1cE 7D 2O 7A 4D 1O bN aO 9A lO 5A jO c0A 19O 1D 2N",
    "aO 5iU wL wO oD 1O 2vA 23O 4E 1A 1E 1jO 7E 4A dO 1sA 2O 1A 1E 1O bE 2O eA 4qgO 8A yeO 15A aO",
    "6w7A 4O 1A 7O 1A 2O 1A 83O fA 1O tA 3O 2A 1O eA 4O 8A b0O 1s4A 2zO 5A dO 3A 9O 7A aO 3E 2D",
    "1C 4O 37wN aO eeE 1aO 2E nO f2E 5O 3E 6C 8E 8O 2E 7O uE 4O 44E 3O cbU qL qU qL 7O 1L iU qL",
    "qU 1O 1U 2O 2U 1O 2U 2O 2U 4O 1U 8L 4O 1L 1O 1L 7O 1L bU qL qU 2O 1U 4O 2U 8O 1U 7O 1L qU 2O",
    "1U 4O 1U 5O 1U 1O 3U 7O 1L qU qL qU qL qU qL qU qL qU qL qU qL sO 2U pO 1L pO 1L 6U pO 1L pO",
    "1L 6U pO 1L pO 1L 6U pO 1L pO 1L 6U pO 1L pO 1L 6U 1L 1O 2N 1eO e8E 1jO 4E 1eO 8E 1O eE 1O",
    "3D 1O iE 5O 1E fO uoL aA 1L kO 6L 6O 5xE 7O 1E hO 2E 7O 1E 2O 1E 5O 5L 1qO xE 1O 34A 19O 3E",
    "7A 7O 2N aO 4A 1O 8xA uE 1O hA 18E 4N aO d2A sE 4N aO 5yA uE 2A 1N aO dhA 7O 1A 4O 1A 2O 1A",
    "fO 1A 5hO bE 7O 15U yL yE 7A 1O 4N aO x2A 4O 1A rO 1A 2O 1A 1O 2A 1O 1A aO 1A 4O 1A 1O 1A 1O",
    "6A 1O 4A 1O 1A 1O 1A 1O 1A 3O 1A 2O 1A 1O 2A 1O 1A 1O 1A 1O 1A 1O 1A 1O 1A 2O 1A 1O 2A 4O 1A",
    "7O 1A 4O 1A 4O 1A 1O 1A aO 1A hO 5A 3O 1A 5O 1A hO hgU qO 6U qO 6U qO z0B 3O 12vN aO smA",
    "wyoO wA 37eO 6A 66O 2A 4g2O eA 5rlO fA haO 1wiA f2O 15uA 3t7O 5A 38gO f975C 1O uE 2oO 3kE",
    "6oO"]

/-- The ranges of the characters to which one of these properties gives a value. -/
def breakRanges? (name value : String) : Option (List (Nat × Nat)) :=
  ([graphemeBreak, wordBreak, sentenceBreak].find? fun p => p.names.contains name).bind fun p =>
    p.ranges? value

end LintVerdict.Unicode
