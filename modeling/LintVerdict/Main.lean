import LintVerdict.CommandLine.Action
import LintVerdict.Shell.Machine

/-!
# The program

The only part that reads the disk and prints. It takes a picture of the files that a run may look
at, lets the library work on the picture, and prints what comes out. What linters write stays in
the picture.

## Main definitions

* `main`: the program.
-/

namespace LintVerdict.Picture

/-- The variables of the environment that matter to the tool and to linters. -/
def variableNames : List String :=
  ["PATH", "HOME", "XDG_CONFIG_HOME", "LANG", "LC_ALL", "GOPATH", "GOROOT", "GOFLAGS", "NO_COLOR",
    "CLICOLOR", "CLICOLOR_FORCE"]

/-- The paths that the search for a configuration looks at. -/
def configPaths (here : SystemText) : List SystemText :=
  (here :: directoriesAbove here.length here).flatMap fun dir =>
    (Config.fileNames ++ [".git/HEAD"]).map (FilePath.join dir)

/-- The paths that arguments may name. -/
def argumentPaths (here : SystemText) (args : List String) : List SystemText :=
  (args.flatMap (Text.splitAt '=')).map fun part => FilePath.join here (Text.encoded part)

/-- The programs that a run may start. -/
def programNames (files : Files) (args : List String) : List String :=
  let config := match CommandLine.Request.ofArgs args with
    | .ok q => (Config.load files q.settings.config files.here).toOption
    | .error _ => none
  let registry := (config.bind fun p => p.1.registry.toOption).getD .builtin
  "git" :: "go" :: (registry.ids.filterMap registry.get?).map LinterSpec.program

/-- The paths where programs may be. -/
def programPaths (env : List (SystemText × SystemText)) (names : List String) : List SystemText :=
  let path := ((env.find? fun v => v.1 = "PATH").map (·.2)).getD ""
  (Text.splitAt ':' path).flatMap fun dir =>
    names.map fun name => FilePath.join dir (Text.encoded name)

/-- The tree with one more file. -/
def withFile (executable : Bool) (files : Files) (path : SystemText)
    (content : ByteArray) : Files :=
  let made := do
    let files ← files.makeDirs ((FilePath.parent? path).getD "")
    let files ← files.write path false content
    files.setExecutable path executable
  made.toOption.getD files

/-- The tree with the files among some paths that can be read. -/
def withFiles (executable : Bool) (files : Files) (paths : List SystemText) : IO Files :=
  paths.foldlM
    (fun (files : Files) (path : SystemText) => do
      match ← (IO.FS.readBinFile (Text.decoded path)).toBaseIO with
      | .ok content => return withFile executable files path content
      | .error _ => return files)
    files

/-- The environment. -/
def environment : IO (List (SystemText × SystemText)) :=
  variableNames.filterMapM fun name => do
    return (← IO.getEnv name).map fun value => (name, Text.encoded value)

end LintVerdict.Picture

open LintVerdict

/-- Reads what a run needs, carries out the command line and prints the outcome. -/
def main (args : List String) : IO UInt32 := do
  let here := Text.encoded (toString (← IO.currentDir))
  let env ← Picture.environment
  let place : Place := (Text.splitAt '/' here).filter fun name => !name.isEmpty
  let empty : Files := ⟨.dir Shell.systemTree, []⟩
  let start := ((empty.makeDirs here).toOption.getD empty).inDir place
  let files ← Picture.withFiles false start
    (Picture.configPaths here ++ Picture.argumentPaths here args)
  let files ← Picture.withFiles true files
    (Picture.programPaths env (Picture.programNames files args))
  let terminal ← (← IO.getStdout).isTty
  let (outcome, _) := CommandLine.carryOut Shell.machine args ⟨files, env, terminal, []⟩
  IO.print outcome.stdout
  IO.eprint outcome.stderr
  return outcome.exitCode.toUInt32
