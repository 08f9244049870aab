/-!
# Terminal styles

Styled text stands between an escape sequence that turns its style on and one that resets it.

## Main definitions

* `Style`: the styles in use.
* `Style.paint`: a text in a style.
-/

namespace LintVerdict

/-- A style of terminal text. -/
inductive Style where
  /-- The path of a finding: blue and underlined. -/
  | path
  /-- A line or column number: cyan. -/
  | number
  /-- The linter of a finding: yellow. -/
  | linter
  /-- Good news: bold green. -/
  | good
  /-- Bad news: bold red. -/
  | bad
  /-- An id in a list: bold. -/
  | strong
  /-- A marker in a list: green. -/
  | marker
  deriving DecidableEq, Repr

namespace Style

/-- The parameters of a style's escape sequence. -/
def code : Style → String
  | path => "4;34"
  | number => "36"
  | linter => "33"
  | good => "1;32"
  | bad => "1;31"
  | strong => "1"
  | marker => "32"

/-- The escape character. -/
def escape : Char := '\x1b'

/-- The sequence that turns a style on. -/
def start (s : Style) : List Char := escape :: '[' :: (s.code.toList ++ ['m'])

/-- The sequence that turns all styles off. -/
def reset : List Char := [escape, '[', '0', 'm']

/-- The text with `extra` after every reset in it. -/
def afterResets (extra : List Char) : List Char → List Char
  | [] => []
  | '\x1b' :: '[' :: '0' :: 'm' :: rest => reset ++ extra ++ afterResets extra rest
  | c :: rest => c :: afterResets extra rest

/-- A text in a style. A reset inside the text turns the style on again. -/
def paint (s : Style) (text : String) : String :=
  String.ofList (s.start ++ afterResets s.start text.toList ++ reset)

end Style

end LintVerdict
