import LintVerdict.Linter.Target
import LintVerdict.Proofs.Files.Location
import LintVerdict.Proofs.Scope.Argument

/-!
# Targets that are read as options

A program reads an argument as an option if it begins with a dash. The directory of a scope is
written with a `./` before it, so it never does. The Go files of a directory are written by their
bare names, or by the directory and the name, and the names in a repository are arbitrary. The file
says when such an argument begins with a dash.

## Main definitions

* `ReadsAsOption`: the arguments that a program reads as options.
* `Files.HasGoFile`: the Go files that stand right in a directory.

## Main results

* `Files.mem_goFilesIn_iff`: the files that are listed for a directory.
* `TargetStyle.args_cases`: what stands for a scope on a command line.
* `target_reads_as_option_iff`: when a target is read as an option.
-/

namespace LintVerdict

open FilePath

/-- An argument that a program reads as an option: it begins with a dash. -/
def ReadsAsOption (arg : String) : Prop := ['-'] <+: arg.toList

instance (arg : String) : Decidable (ReadsAsOption arg) :=
  inferInstanceAs (Decidable (_ <+: _))

/-- A Go file right in a directory: an entry with the name of one that leads to a regular file. The
name is a text, so an entry whose name is not UTF-8 is none. -/
structure Files.HasGoFile (files : Files) (dir : SystemText) (name : String) : Prop where
  /-- The directory has an entry of this name. -/
  listed : ∃ names, files.names dir = .ok names ∧ Text.encoded name ∈ names
  /-- The entry leads to a regular file. -/
  isFile : files.isFile (join dir (Text.encoded name)) = true
  /-- The name ends in `.go` and is longer. -/
  suffix : ['.', 'g', 'o'] <:+ name.toList
  longer : name ≠ ".go"

variable {files : Files} {dir : SystemText} {name : String} {found : List String}

/-! ### The Go files of a directory -/

/-- The name of a Go file ends in `.go` and is longer. -/
theorem isGoName_encoded_iff :
    isGoName (Text.encoded name) = true ↔ ['.', 'g', 'o'] <:+ name.toList ∧ name ≠ ".go" := by
  have hsuffix : ['.', 'g', 'o'] <:+ (Text.encoded name).toList ↔
      ['.', 'g', 'o'] <:+ name.toList := by
    rw [Text.toList_encoded, Text.suffix_encodedChars_iff (by simp)]
  have hbare : Text.encoded name = ".go" ↔ name = ".go" := by
    conv_lhs => rw [← Text.encoded_of_ascii (show Text.isAscii ".go" = true by decide +kernel)]
    exact Text.encoded_injective.eq_iff
  rw [isGoName, Bool.and_eq_true, decide_eq_true_eq, Ne, hbare, isGo, List.isSuffixOf_iff_suffix,
    hsuffix]

/-- The files that are listed for a directory are its Go files. -/
theorem Files.mem_goFilesIn_iff (h : goFilesIn files dir = .ok found) :
    name ∈ found ↔ files.HasGoFile dir name := by
  unfold goFilesIn at h
  split at h
  · next hnames =>
    obtain rfl := Except.ok.inj h
    refine iff_of_false List.not_mem_nil ?_
    rintro ⟨⟨names, hlisted, -⟩, -⟩
    cases hnames.symm.trans hlisted
  · cases h
  · next names hnames =>
    obtain rfl := Except.ok.inj h
    simp only [List.mem_mergeSort, List.mem_filterMap, Text.decoded?_eq_some_iff,
      exists_eq_right, List.mem_filter, Bool.and_eq_true, isGoName_encoded_iff]
    constructor
    · rintro ⟨hname, hfile, hsuffix, hlonger⟩
      exact ⟨⟨names, hnames, hname⟩, hfile, hsuffix, hlonger⟩
    · rintro ⟨⟨names', hlisted, hname⟩, hfile, hsuffix, hlonger⟩
      obtain rfl := Except.ok.inj (hnames.symm.trans hlisted)
      exact ⟨hname, hfile, hsuffix, hlonger⟩

/-- A directory that cannot be listed shows no Go file. -/
theorem Files.not_hasGoFile {e : SystemError} (h : goFilesIn files dir = .error e) :
    ¬ files.HasGoFile dir name := by
  rintro ⟨⟨names, hlisted, -⟩, -⟩
  rw [goFilesIn, hlisted] at h
  cases h

/-! ### The arguments for a scope -/

/-- How a Go file in the directory of a scope is written. -/
def Scope.fileArg (scope : Scope) (name : String) : String :=
  if scope.path = "." then name else scope.path ++ "/" ++ name

/-- What stands for a scope on a command line: its directory, or each Go file in it. -/
theorem TargetStyle.args_cases (style : TargetStyle) (files : Files) (root : SystemText)
    (scope : Scope) :
    (style.args files root scope = .ok [scope.arg] ∧
        (style = .path ∨ goFilesIn files (join root (Text.encoded scope.path)) = .ok [])) ∨
      (style = .goFiles ∧ ∃ found, found ≠ [] ∧
        goFilesIn files (join root (Text.encoded scope.path)) = .ok found ∧
        style.args files root scope = .ok (found.map scope.fileArg)) ∨
      (style = .goFiles ∧ ∃ e, goFilesIn files (join root (Text.encoded scope.path)) = .error e ∧
        style.args files root scope = .error (.target scope.path e.message)) := by
  cases style with
  | path => exact Or.inl ⟨rfl, Or.inl rfl⟩
  | goFiles =>
      rw [args]
      split
      · next e hfound => exact Or.inr (Or.inr ⟨rfl, e, hfound, rfl⟩)
      · next hfound => exact Or.inl ⟨rfl, Or.inr hfound⟩
      · next found hne hfound =>
        exact Or.inr (Or.inl ⟨rfl, found, hne, hfound, rfl⟩)

/-! ### Dashes -/

/-- The directory of a scope is no option. -/
theorem Scope.not_readsAsOption_arg (scope : Scope) : ¬ ReadsAsOption scope.arg := by
  rintro ⟨rest, hrest⟩
  have hdash : scope.arg.toList.head? = some '-' := by
    rw [← hrest]
    rfl
  rcases scope.arg_cases with ⟨harg, hdot | hslash⟩ | ⟨harg, -, -⟩
  · rw [harg, hdot] at hdash
    exact absurd hdash (by decide)
  · rw [harg, hslash] at hdash
    exact absurd hdash (by decide)
  · rw [harg, toList_dotSlash] at hdash
    exact absurd hdash (by simp)

/-- A Go file is read as an option by its name, or by the directory before it. -/
theorem Scope.readsAsOption_fileArg_iff (scope : Scope) (name : String) :
    ReadsAsOption (scope.fileArg name) ↔
      ReadsAsOption (if scope.path = "." then name else scope.path) := by
  rw [fileArg]
  split
  · rfl
  · rw [ReadsAsOption, ReadsAsOption, String.toList_append, String.toList_append]
    cases scope.path.toList with
    | nil => simp
    | cons c cs => simp

/-- **When a target is read as an option.** An argument for a scope begins with a dash exactly if
the linter takes Go files, the directory has one, and the dash stands first in the name of such a
file, for the working root, or first in the path of the scope, for any other directory. -/
theorem target_reads_as_option_iff (style : TargetStyle) (files : Files) (root : SystemText)
    (scope : Scope) :
    (∃ args, style.args files root scope = .ok args ∧ ∃ arg ∈ args, ReadsAsOption arg) ↔
      style = .goFiles ∧ ∃ name, files.HasGoFile (join root (Text.encoded scope.path)) name ∧
        ReadsAsOption (if scope.path = "." then name else scope.path) := by
  obtain ⟨hargs, hnone⟩ | ⟨hstyle, found, hne, hfound, hargs⟩ | ⟨hstyle, e, hfound, hargs⟩ :=
    style.args_cases files root scope
  · refine iff_of_false ?_ ?_
    · rintro ⟨args, hok, arg, harg, hdash⟩
      obtain rfl := Except.ok.inj (hargs.symm.trans hok)
      obtain rfl := List.mem_singleton.mp harg
      exact scope.not_readsAsOption_arg hdash
    · rintro ⟨hstyle, name, hname, -⟩
      obtain hpath | hfound := hnone
      · cases hpath.symm.trans hstyle
      · exact absurd ((Files.mem_goFilesIn_iff hfound).mpr hname) List.not_mem_nil
  · constructor
    · rintro ⟨args, hok, arg, harg, hdash⟩
      obtain rfl := Except.ok.inj (hargs.symm.trans hok)
      obtain ⟨name, hname, rfl⟩ := List.mem_map.mp harg
      exact ⟨hstyle, name, (Files.mem_goFilesIn_iff hfound).mp hname,
        (scope.readsAsOption_fileArg_iff name).mp hdash⟩
    · rintro ⟨-, name, hname, hdash⟩
      have hmem := (Files.mem_goFilesIn_iff hfound).mpr hname
      exact ⟨_, hargs, scope.fileArg name, List.mem_map_of_mem hmem,
        (scope.readsAsOption_fileArg_iff name).mpr hdash⟩
  · refine iff_of_false ?_ ?_
    · rintro ⟨args, hok, -⟩
      cases hargs.symm.trans hok
    · rintro ⟨-, name, hname, -⟩
      exact Files.not_hasGoFile hfound hname

/-- A repository with one package, whose name begins with a dash. -/
def dashedFiles : Files :=
  ⟨.dir [("repo", .dir [("-pkg", .dir [("x.go", .file ⟨#[]⟩ false)])])], ["repo"]⟩

/-- The package is given with a `./` before it, and the Go file in it by the bare path. -/
theorem dashed_directory_bare :
    (Scopes.ofFiles ["-pkg/x.go"]).directories = ["-pkg"] ∧
      TargetStyle.path.args dashedFiles "/repo" ⟨.directory, "-pkg"⟩ = .ok ["./-pkg"] ∧
      TargetStyle.goFiles.args dashedFiles "/repo" ⟨.directory, "-pkg"⟩ = .ok ["-pkg/x.go"] ∧
      ReadsAsOption "-pkg/x.go" := by
  have hdir : dashedFiles.place "/repo/-pkg" true = .ok ["repo", "-pkg"] := by
    rw [Files.place_of_walk (show _ = '/' :: "repo/-pkg".toList from rfl) (by decide) (by decide)]
    cbv
  have hfile : dashedFiles.place "/repo/-pkg/x.go" true = .ok ["repo", "-pkg", "x.go"] := by
    rw [Files.place_of_walk (show _ = '/' :: "repo/-pkg/x.go".toList from rfl)
      (by decide) (by decide)]
    cbv
  have hnames : dashedFiles.names "/repo/-pkg" = .ok ["x.go"] := by
    rw [Files.names, Files.node, hdir]
    rfl
  have hisFile : dashedFiles.isFile "/repo/-pkg/x.go" = true := by
    rw [Files.isFile, Files.node, hfile]
    rfl
  have hdirPath : join "/repo" (Text.encoded "-pkg") = "/repo/-pkg" := by
    rw [Text.encoded_of_ascii (by decide +kernel)]
    decide
  have hfilePath : join "/repo/-pkg" "x.go" = "/repo/-pkg/x.go" := by decide
  have hfound : goFilesIn dashedFiles "/repo/-pkg" = .ok ["x.go"] := by
    rw [goFilesIn, hnames]
    dsimp only
    rw [List.filter_cons_of_pos (by rw [hfilePath, hisFile]; decide), List.filter_nil,
      List.filterMap_cons_some (Text.decoded?_of_ascii (by decide +kernel)), List.filterMap_nil,
      List.mergeSort_singleton]
  refine ⟨by decide, by decide, ?_, by decide⟩
  rw [TargetStyle.args, hdirPath, hfound]
  rfl

end LintVerdict
