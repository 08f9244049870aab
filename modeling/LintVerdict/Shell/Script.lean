/-!
# Shell scripts

The form of a script for the standard command language. Texts in it are bytes, each as the
character of its number.

## Main definitions

* `WordPart`, `Word`: words with what is to be replaced in them.
* `Script`: commands.
-/

namespace LintVerdict.Shell

/-- What stands for a variable that has no value. -/
inductive Fallback where
  /-- A word. -/
  | default
  /-- A word, which the variable takes as its value. -/
  | assign
  /-- Nothing; the script ends with a word as its complaint. -/
  | refuse
  /-- Nothing, and a word stands for a variable that has a value. -/
  | alternative
  deriving DecidableEq, Repr

mutual

/-- A part of a word. What is quoted is not split. -/
inductive WordPart where
  /-- Text. -/
  | text (s : List Char) (quoted : Bool)
  /-- The value of a variable. -/
  | variable (name : List Char) (use : Use) (quoted : Bool)
  /-- What a script prints. -/
  | output (script : List Char) (quoted : Bool)
  /-- The value of an expression. -/
  | sum (expression : List WordPart) (quoted : Bool)

/-- What is done with the value of a variable. -/
inductive Use where
  /-- It is taken as it is. -/
  | value
  /-- Its length is taken. -/
  | length
  /-- A word stands in for it; with a colon also for an empty value. -/
  | fallback (colon : Bool) (kind : Fallback) (word : List WordPart)
  /-- It is taken without the part at one end that fits a pattern. -/
  | trim (fromEnd longest : Bool) (pattern : List WordPart)

end

/-- A word. -/
abbrev Word := List WordPart

/-- What a redirection does. -/
inductive Direction where
  /-- Reads from a file. -/
  | input
  /-- Writes to a file anew. -/
  | output
  /-- Writes to a file behind what is in it. -/
  | append
  /-- Takes the place of another stream, or of none. -/
  | duplicate
  deriving DecidableEq, Repr

/-- A redirection of a stream. -/
structure Redirect where
  /-- The number of the stream. -/
  stream : Nat
  /-- What it does. -/
  direction : Direction
  /-- The file or stream. -/
  target : Word

/-- A command. -/
inductive Script where
  /-- Nothing. -/
  | empty
  /-- A program or built-in command; `below` counts the line ends behind its start. -/
  | simple (below : Nat) (assignments : List (List Char × Word)) (words : List Word)
      (redirects : List Redirect)
  /-- Commands of which each one reads what the one before prints. -/
  | pipe (negated : Bool) (parts : List Script)
  /-- The second one if the first succeeds. -/
  | both (a b : Script)
  /-- The second one if the first fails. -/
  | either (a b : Script)
  /-- One after the other. -/
  | sequence (a b : Script)
  /-- On the side. -/
  | background (a : Script)
  /-- In a shell of its own. -/
  | subshell (a : Script)
  /-- With redirected streams. -/
  | redirected (a : Script) (redirects : List Redirect)
  /-- By a condition. -/
  | choice (condition yes no : Script)
  /-- Again as long as a condition holds, or does not hold. -/
  | loop (holds : Bool) (condition body : Script)
  /-- Once for each word, or for each argument. -/
  | each (name : List Char) (words : Option (List Word)) (body : Script)
  /-- The branch of the first pattern that a word fits. -/
  | cases (word : Word) (branches : List (List Word × Script))
  /-- A command by a new name. -/
  | define (name : List Char) (body : Script)

end LintVerdict.Shell
