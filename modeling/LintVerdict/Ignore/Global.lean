import LintVerdict.Ignore.Rules
import LintVerdict.Pattern.Expr.Meaning
import LintVerdict.Process.Session

/-!
# Ignore rules of a user

A user may have ignore rules for all repositories. They stand in a file that a setting of git names,
or else in one at a place of its own, and they are about the current directory.

## Main definitions

* `GitSettings.excludesFile?`: the file that a text of settings names.
* `Session.globalIgnore?`: the file of the rules.
* `RuleSet.global`: the rules.
-/

namespace LintVerdict

open Pattern (CharSet Regex Program)

namespace GitSettings

/-- Any number of blanks. -/
def blanks : Regex := Regex.star true (.chars .asciiSpaces)

/-- A quotation mark, which may be missing. -/
def quote : Regex := Regex.optional true (.chars (.single '"'))

/-- The line that names a file. The blanks in it may be line ends. -/
def line : Regex :=
  Glob.sequence <|
    [.look .feedStart, blanks] ++
      ("excludesfile".toList.map fun c => .chars (CharSet.single c).foldAscii) ++
      [blanks, .chars (.single '='), blanks, quote, blanks,
        .group 1 (.plus false (.chars CharSet.asciiSpaces.complement)), blanks, quote, blanks,
        .look .feedEnd]

/-- A text in which every tilde is read as the home directory. -/
def expandTilde (home : Option SystemText) (path : String) : String :=
  match home with
  | none => path
  | some home =>
    String.ofList (path.toList.flatMap fun c => if c = '~' then (Text.decoded home).toList else [c])

/-- The file that a text of settings names. -/
def excludesFile? (home : Option SystemText) (settings : ByteArray) : Option SystemText := do
  let text := (Text.byteChars settings).toArray
  let found ← (Program.ofRegex line).matchFrom? text 0
  let (first, last) ← found.group? 1
  let path ← Text.decoded? (String.ofList (text.extract first last).toList)
  return Text.encoded (expandTilde home path)

end GitSettings

namespace Session

/-- The directory of a user's settings. -/
def configHome? (s : Session) : Option SystemText :=
  ((s.setting? "XDG_CONFIG_HOME").filter fun dir => !dir.isEmpty).orElse fun _ =>
    s.home?.map fun home => FilePath.join home ".config"

/-- The file of a user's ignore rules. -/
def globalIgnore? (s : Session) : Option SystemText :=
  let named (dir : Option SystemText) (settings : SystemText) : Option SystemText := do
    let content ← (s.files.read (FilePath.join (← dir) settings)).toOption
    GitSettings.excludesFile? s.home? content
  (named s.home? ".gitconfig").orElse fun _ =>
    (named s.configHome? "git/config").orElse fun _ =>
      s.configHome?.map fun dir => FilePath.join dir "git/ignore"

end Session

/-- A user's ignore rules. What is wrong in them is passed over. -/
def RuleSet.global (s : Session) : RuleSet :=
  match s.globalIgnore?.filter s.files.isFile with
  | some path => (RuleSet.load s.files s.files.here path).1
  | none => ⟨s.files.here, []⟩

end LintVerdict
