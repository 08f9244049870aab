import LintVerdict.Options
import LintVerdict.Text.Blank

/-!
# Command templates

A command template is a program and argument tokens, separated by blanks. A token may hold
placeholders, written as a name in braces with an optional default after an equals sign. They
are filled from the options when a command is built.

## Main definitions

* `Segment`, `Token`, `CommandTemplate`: the parsed form.
* `CommandTemplate.parse`: reads a template, or tells its first fault.
* `CommandTemplate.render`: the arguments under given options, or the first placeholder that
  has neither a value nor a default.
* `CommandTemplate.build`: the command line for a target.
-/

namespace LintVerdict

/-- Why a template cannot be used. -/
inductive TemplateError where
  /-- The template has no token. -/
  | empty
  /-- A token opens a placeholder and does not close it. -/
  | unclosed (token : String)
  /-- A placeholder has no known name. -/
  | unknownPlaceholder (name : String)
  /-- The program's token holds a placeholder. -/
  | placeholderProgram (token : String)
  /-- A flag placeholder declares no text. -/
  | flagWithoutText (name : String)
  /-- A placeholder has neither a value nor a default. -/
  | missing (linter : String) (name : String)
  /-- The files of the target cannot be listed. -/
  | target (dir : String) (reason : String)
  deriving DecidableEq, Repr

/-- The text between braces. -/
def braced (s : String) : String := "\x7b" ++ s ++ "\x7d"

/-- The message of a template error. -/
def TemplateError.message : TemplateError → String
  | empty => "empty invocation template"
  | unclosed token => "unclosed placeholder in template token '" ++ token ++ "'"
  | unknownPlaceholder name => "unknown placeholder '" ++ braced name ++ "'"
  | placeholderProgram token => "program name '" ++ token ++ "' cannot be a placeholder"
  | flagWithoutText name =>
    "flag placeholder '" ++ braced name ++ "' needs a declared flag text, e.g. '" ++
      braced (name ++ "=-a") ++ "'"
  | missing linter name =>
    "placeholder '" ++ braced name ++ "' of linter '" ++ linter ++
      "' has no value and no default"
  | target dir reason => "failed to list Go files in '" ++ dir ++ "': " ++ reason

/-- A piece of a token. -/
inductive Segment where
  /-- Text that stands for itself. -/
  | literal (text : List Char)
  /-- A placeholder, with the name as it is written and its default. -/
  | placeholder (p : Placeholder) (default : Option (List Char))
  deriving DecidableEq, Repr

/-- Whether a segment stands for itself. -/
def Segment.isLiteral : Segment → Bool
  | literal _ => true
  | placeholder _ _ => false

/-- One blank-separated part of a template. -/
structure Token where
  /-- The token as it is written. -/
  raw : List Char
  /-- Its pieces. -/
  segments : List Segment
  deriving DecidableEq, Repr

/-- The text up to the first equals sign, and the text after it if there is one. -/
def splitDefault (inner : List Char) : List Char × Option (List Char) :=
  match inner.span (· ≠ '=') with
  | (name, []) => (name, none)
  | (name, _ :: rest) => (name, some rest)

/-- Reads what stands between the braces of a placeholder. -/
def parsePlaceholder (inner : List Char) : Except TemplateError Segment :=
  let (written, default) := splitDefault inner
  let name := String.ofList (Text.trimChars written)
  match Placeholder.ofName? name with
  | none => .error (.unknownPlaceholder name)
  | some p =>
    if p.isFlag && default.all List.isEmpty then .error (.flagWithoutText name)
    else .ok (.placeholder p default)

/-- The literal segment of a text, none for no text. -/
def literalOf (text : List Char) : List Segment := if text.isEmpty then [] else [.literal text]

/-- Reads the segments of a token: text up to an opening brace, what stands up to the next
closing brace, and so on. -/
def parseSegments (raw : List Char) (rest : List Char) : Except TemplateError (List Segment) :=
  match _h : rest.dropWhile (· ≠ '\x7b') with
  | [] => .ok (literalOf rest)
  | _ :: after =>
    match _h' : after.dropWhile (· ≠ '\x7d') with
    | [] => .error (.unclosed (String.ofList raw))
    | _ :: rest' => do
      let p ← parsePlaceholder (after.takeWhile (· ≠ '\x7d'))
      let more ← parseSegments raw rest'
      return literalOf (rest.takeWhile (· ≠ '\x7b')) ++ p :: more
  termination_by rest.length
  decreasing_by
    have h1 := (List.dropWhile_sublist (l := rest) (· ≠ '\x7b')).length_le
    have h2 := (List.dropWhile_sublist (l := after) (· ≠ '\x7d')).length_le
    rw [_h] at h1
    rw [_h'] at h2
    simp only [List.length_cons] at h1 h2
    omega

namespace Token

/-- Reads a token. -/
def parse (raw : List Char) : Except TemplateError Token := do
  return ⟨raw, ← parseSegments raw raw⟩

/-- Whether a token holds no placeholder. -/
def isLiteral (t : Token) : Bool := t.segments.all Segment.isLiteral

end Token

/-- The text of the segments under the options: `none` when a flag that is off drops the
token, an error when a placeholder has neither a value nor a default. -/
def renderSegments (linter : String) (options : Options) :
    List Segment → List Char → Except TemplateError (Option (List Char))
  | [], out => .ok (some out)
  | .literal text :: rest, out => renderSegments linter options rest (out ++ text)
  | .placeholder p default :: rest, out =>
    match options.value? p with
    | some (.text v) => renderSegments linter options rest (out ++ v.toList)
    | some (.flag true) => renderSegments linter options rest (out ++ default.getD [])
    | some (.flag false) => .ok none
    | none =>
      match default with
      | some d => renderSegments linter options rest (out ++ d)
      | none => .error (.missing linter p.name)

/-- The argument that a token gives; a token that is dropped or comes out empty gives none. -/
def Token.render (t : Token) (linter : String) (options : Options) :
    Except TemplateError (Option String) := do
  match ← renderSegments linter options t.segments [] with
  | none => return none
  | some [] => return none
  | some text => return some (String.ofList text)

/-- A parsed template: the program and its argument tokens. -/
structure CommandTemplate where
  /-- The program, without placeholders. -/
  program : String
  /-- The arguments. -/
  args : List Token
  deriving DecidableEq, Repr

/-- A command line: program and arguments. -/
structure Command where
  /-- The program. -/
  program : String
  /-- The arguments, the program left out. -/
  args : List String
  deriving DecidableEq, Repr

namespace Command

/-- Program and arguments in one list. -/
def argv (c : Command) : List String := c.program :: c.args

/-- The command line as one text, the parts separated by a space. -/
def display (c : Command) : String := Text.joinWith " " c.argv

end Command

namespace CommandTemplate

/-- Reads a template. The program's token is checked before the arguments are looked at. -/
def parse (template : String) : Except TemplateError CommandTemplate :=
  match Text.wordChars template.toList with
  | [] => .error .empty
  | program :: args => do
    let token ← Token.parse program
    if token.isLiteral then
      return ⟨String.ofList program, ← args.mapM Token.parse⟩
    else .error (.placeholderProgram (String.ofList program))

/-- The tokens of the template, separated by one space each. -/
def display (t : CommandTemplate) : String :=
  Text.joinWith " " (t.program :: t.args.map fun a => String.ofList a.raw)

/-- The arguments under the options, the program left out. -/
def render (t : CommandTemplate) (linter : String) (options : Options) :
    Except TemplateError (List String) := do
  return (← t.args.mapM fun a => a.render linter options).filterMap id

/-- The command line that runs the template on a target. -/
def build (t : CommandTemplate) (linter : String) (target : List String) (options : Options) :
    Except TemplateError Command := do
  return ⟨t.program, (← t.render linter options) ++ target⟩

end CommandTemplate

end LintVerdict
