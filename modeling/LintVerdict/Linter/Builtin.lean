import LintVerdict.Linter.Definition

/-!
# Built-in linters

The Go linters that are known without any declaration.

## Main definitions

* `builtinLinters`: their ids and declarations.
-/

namespace LintVerdict

/-- The pattern of a diagnostic with line and column that may stand behind a package path. -/
def withColumn : String :=
  "^(?:[^:]+: )?(?P<path>[^:]+):(?P<line>\\d+):(?P<col>\\d+):\\s*(?P<message>.+)$"

/-- The built-in linters: id, then command, pattern, target style, message and install source. -/
def builtinLinters : List (String × LinterDefinition) := [
  ("aligncheck",
    ⟨"aligncheck",
      withColumn,
      .path, none,
      (some "gitlab.com/opennota/check/cmd/aligncheck@latest")⟩),
  ("deadcode",
    ⟨"deadcode",
      "^deadcode: (?P<path>.*?\\.go):(?P<line>\\d+):(?P<col>\\d+):\\s*(?P<message>.*)$",
      .path, none,
      (some "github.com/tsenart/deadcode@latest")⟩),
  ("dupl",
    ⟨"dupl -plumbing -threshold \x7bthreshold=50\x7d",
      "^(?P<path>[^\\s][^:]+?\\.go):(?P<line>\\d+)-\\d+:\\s*(?P<message>.*)$",
      .goFiles, none,
      (some "github.com/mibk/dupl@latest")⟩),
  ("errcheck",
    ⟨"errcheck -abspath",
      "PATH:LINE:COL:MESSAGE",
      .path, (some "error return value not checked"),
      (some "github.com/kisielk/errcheck@latest")⟩),
  ("goconst",
    ⟨"goconst -min-occurrences \x7bmin_occurrences=3\x7d",
      "PATH:LINE:COL:MESSAGE",
      .path, none,
      (some "github.com/jgautheron/goconst/cmd/goconst@latest")⟩),
  ("gocyclo",
    ⟨"gocyclo -over \x7bmincyclo=10\x7d",
      "^(?P<cyclo>\\d+)\\s+\\S+\\s(?P<function>\\S+)\\s+(?P<path>[^:]+):(?P<line>\\d+):(\\d+)$",
      .path, (some "cyclomatic complexity is too high"),
      (some "github.com/fzipp/gocyclo/cmd/gocyclo@latest")⟩),
  ("gofmt",
    ⟨"gofmt -l -s",
      "^(?P<path>[^\\n]+)$",
      .goFiles, (some "file is not gofmt-ed with -s"),
      none⟩),
  ("goimports",
    ⟨"goimports -w",
      "PATH:LINE:MESSAGE",
      .path, none,
      (some "golang.org/x/tools/cmd/goimports@latest")⟩),
  ("golint",
    ⟨"golint -min_confidence \x7bmin_confidence=0.8\x7d",
      "PATH:LINE:COL:MESSAGE",
      .path, none,
      (some "golang.org/x/lint/golint@latest")⟩),
  ("gotype",
    ⟨"gotype -e \x7btests=-a\x7d",
      "PATH:LINE:COL:MESSAGE",
      .path, none,
      (some "golang.org/x/tools/cmd/gotype@latest")⟩),
  ("ineffassign",
    ⟨"ineffassign -n",
      "PATH:LINE:COL:MESSAGE",
      .path, none,
      (some "github.com/gordonklaus/ineffassign@latest")⟩),
  ("interfacer",
    ⟨"interfacer",
      "PATH:LINE:COL:MESSAGE",
      .path, none,
      (some "mvdan.cc/interfacer@latest")⟩),
  ("lll",
    ⟨"lll -g -l \x7bmaxlinelength=80\x7d",
      "PATH:LINE:MESSAGE",
      .goFiles, none,
      (some "github.com/walle/lll/cmd/lll@latest")⟩),
  ("structcheck",
    ⟨"structcheck \x7btests=-t\x7d",
      withColumn,
      .path, none,
      (some "gitlab.com/opennota/check/cmd/structcheck@latest")⟩),
  ("test",
    ⟨"go test",
      "^--- FAIL: .*$\\s+(?P<path>[^:]+):(?P<line>\\d+): (?P<message>.*)$",
      .path, none,
      none⟩),
  ("testify",
    ⟨"go test",
      "Location:\\s+(?P<path>[^:]+):(?P<line>\\d+)$\\s+Error:\\s+(?P<message>[^\\n]+)",
      .path, none,
      none⟩),
  ("varcheck",
    ⟨"varcheck",
      "^(?:[^:]+: )?(?P<path>[^:]+):(?P<line>\\d+):(?P<col>\\d+):[\\s\\t]+(?P<message>.*)$",
      .path, none,
      (some "gitlab.com/opennota/check/cmd/varcheck@latest")⟩),
  ("vet",
    ⟨"go vet",
      "PATH:LINE:COL:MESSAGE",
      .path, none,
      none⟩),
  ("vetshadow",
    ⟨"shadow",
      "PATH:LINE:COL:MESSAGE",
      .path, none,
      (some "golang.org/x/tools/go/analysis/passes/shadow/cmd/shadow@latest")⟩),
  ("unconvert",
    ⟨"unconvert",
      "PATH:LINE:COL:MESSAGE",
      .path, none,
      (some "github.com/mdempsky/unconvert@latest")⟩),
  ("gosimple",
    ⟨"gosimple",
      "PATH:LINE:COL:MESSAGE",
      .path, none,
      (some "honnef.co/go/tools/cmd/gosimple@2020.1.6")⟩),
  ("staticcheck",
    ⟨"staticcheck",
      "PATH:LINE:COL:MESSAGE",
      .path, none,
      (some "honnef.co/go/tools/cmd/staticcheck@latest")⟩),
  ("misspell",
    ⟨"misspell",
      "PATH:LINE:COL:MESSAGE",
      .goFiles, none,
      (some "github.com/client9/misspell/cmd/misspell@latest")⟩)]

end LintVerdict
