import LintVerdict.Pattern.Output
import LintVerdict.Template

/-!
# Linters

A linter is declared by its command template, the way its target is written on the command
line, and the pattern of its output.

## Main definitions

* `LinterDefinition`: the declaration, as texts.
* `LinterSpec`: the declaration once template and pattern have been read.
* `LinterSpec.compile`: reads a declaration; a fault of the template wins over one of the
  pattern.
-/

namespace LintVerdict

/-- How the scope is written on the command line. -/
inductive TargetStyle where
  /-- As the path of the directory. -/
  | path
  /-- As the Go files of the directory. -/
  | goFiles
  deriving DecidableEq, Repr

namespace TargetStyle

/-- The word for a target style. -/
def name : TargetStyle → String
  | path => "path"
  | goFiles => "go-files"

/-- The target style of a word. -/
def ofName? (s : String) : Option TargetStyle := [path, goFiles].find? fun t => t.name = s

end TargetStyle

/-- The declaration of a linter. -/
structure LinterDefinition where
  /-- The command template. -/
  command : String
  /-- The pattern of the output. -/
  pattern : String
  /-- How the target is written. -/
  target : TargetStyle
  /-- The message of findings whose match holds none. -/
  message : Option String
  /-- What to install when the program is missing. -/
  install : Option String
  deriving DecidableEq, Repr

/-- Why linters cannot be used. -/
inductive RegistryError where
  /-- No linter has the id. -/
  | notFound (id : String)
  /-- The linter is to run on packages and on directories. -/
  | overlap (id : String)
  /-- The command template of the linter is faulty. -/
  | template (id : String) (fault : TemplateError)
  /-- The output pattern of the linter is faulty. -/
  | pattern (id : String) (fault : PatternError)
  deriving DecidableEq, Repr

/-- The message of a registry error. -/
def RegistryError.message : RegistryError → String
  | notFound id => "unknown linter '" ++ id ++ "'"
  | overlap id => "linter '" ++ id ++ "' is listed for both packages and directories"
  | template id fault => "invalid command template for linter '" ++ id ++ "': " ++ fault.message
  | pattern id fault => "invalid output pattern for linter '" ++ id ++ "': " ++ fault.message

/-- A linter that is ready to run. -/
structure LinterSpec where
  /-- Its id. -/
  id : String
  /-- The command template. -/
  template : CommandTemplate
  /-- How the target is written. -/
  target : TargetStyle
  /-- The pattern of the output. -/
  pattern : OutputPattern
  /-- The message of findings whose match holds none. -/
  message : Option String
  /-- What to install when the program is missing. -/
  install : Option String
  deriving DecidableEq, Repr

namespace LinterSpec

/-- Reads a declaration. -/
def compile (id : String) (d : LinterDefinition) : Except RegistryError LinterSpec := do
  let template ← (CommandTemplate.parse d.command).mapError (RegistryError.template id)
  let pattern ← (OutputPattern.parse d.pattern).mapError (RegistryError.pattern id)
  return ⟨id, template, d.target, pattern, d.message, d.install⟩

/-- The program that the linter runs. -/
def program (s : LinterSpec) : String := s.template.program

end LinterSpec

end LintVerdict
