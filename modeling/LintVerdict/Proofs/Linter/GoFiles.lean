import LintVerdict.Proofs.Files.Growth
import LintVerdict.Proofs.Files.Join
import LintVerdict.Proofs.Files.Naming
import LintVerdict.Proofs.Linter.Target
import LintVerdict.Proofs.Scope.Union
import LintVerdict.Proofs.Text.ByteOrder

/-!
# The Go files of a scope

A linter that takes Go files is given those that stand right in the directory of the scope: all of
them, each once, in the order of the bytes of their names, and the directory itself when there is
none. An argument is read from the working root. It leads to the file that was found, unless the
path of the scope is empty: an empty path stands for the root, and the argument behind it is
absolute.

## Main definitions

* `GoFilesTarget`: what stands for a scope, by what its directory holds.

## Main results

* `Files.HasGoFile.place_fileArg_iff`: when an argument leads to the file that was found.
* `go_files_of_scope`: the arguments for a scope, and where they lead.
-/

namespace LintVerdict

open FilePath

variable {files : Files} {root dir path : SystemText} {name : String} {scope : Scope}
  {found : List String} {names : List SystemText}

/-! ### What a directory holds -/

namespace Files

/-- The names in a directory are those of its entries. -/
theorem names_eq_ok_iff :
    files.names path = .ok names ↔
      ∃ place entries, files.root.get? place = some (.dir entries) ∧
        files.place path true = .ok place ∧ names = entries.map Prod.fst := by
  rw [Files.names]
  constructor
  · intro h
    cases hnode : files.node path with
    | error e =>
        rw [hnode] at h
        cases h
    | ok n =>
        rw [hnode] at h
        obtain ⟨place, hplace, hn⟩ := node_eq_ok_iff.mp hnode
        cases n with
        | dir entries => exact ⟨place, entries, hn, hplace, (Except.ok.inj h).symm⟩
        | file _ _ => cases h
        | link _ => cases h
  · rintro ⟨place, entries, hn, hplace, rfl⟩
    rw [node_eq_ok_iff.mpr ⟨place, hplace, hn⟩]
    rfl

/-- The Go files of a directory cannot be told if it is there and cannot be listed. -/
theorem goFilesIn_eq_error_iff {e : SystemError} :
    goFilesIn files dir = .error e ↔ files.names dir = .error e ∧ e ≠ .notFound := by
  rw [goFilesIn]
  split
  · next hnames =>
    constructor
    · intro h
      cases h
    · rintro ⟨he, hne⟩
      exact absurd (Except.error.inj (he.symm.trans hnames)) hne
  · next e' hne hnames =>
    rw [hnames, Except.error.injEq]
    exact ⟨fun h => ⟨h, h ▸ hne⟩, And.left⟩
  · next names hnames =>
    constructor
    · intro h
      cases h
    · rintro ⟨he, -⟩
      cases hnames.symm.trans he

/-- The Go files of a directory are in the order of the bytes of their names. -/
theorem pairwise_goFilesIn (h : goFilesIn files dir = .ok found)
    (hnodup : ∀ names, files.names dir = .ok names → names.Nodup) :
    found.Pairwise fun a b => Text.utf8 a < Text.utf8 b := by
  rw [goFilesIn] at h
  split at h
  · cases h
    exact List.Pairwise.nil
  · cases h
  · next names hnames =>
    cases h
    refine Text.pairwise_mergeSort (((hnodup names hnames).filter _).filterMap ?_)
    intro n n' text hn hn'
    exact (Text.decoded?_eq_some_iff.mp hn).trans (Text.decoded?_eq_some_iff.mp hn').symm

/-- A path that leads somewhere is short enough. -/
theorem size_lt_of_place {place : Place} (h : files.place path true = .ok place) :
    path.length < pathLimit := by
  rw [Files.place] at h
  split at h
  · cases h
  split at h
  · cases h
  split at h
  · cases h
  · next hshort => exact Nat.not_le.mp hshort

/-- A path to a regular file leads somewhere. -/
theorem exists_place_of_isFile (h : files.isFile path = true) :
    ∃ place, files.place path true = .ok place := by
  rw [Files.isFile] at h
  cases hnode : files.node path with
  | error e =>
      rw [hnode] at h
      cases h
  | ok n =>
      obtain ⟨place, hplace, -⟩ := node_eq_ok_iff.mp hnode
      exact ⟨place, hplace⟩

end Files

/-! ### Where an argument leads -/

/-- How a Go file is written, as a text of the system. -/
theorem Scope.encoded_fileArg (scope : Scope) (name : String) :
    Text.encoded (scope.fileArg name) =
      if scope.path = "." then Text.encoded name
      else Text.encoded scope.path ++ "/" ++ Text.encoded name := by
  rw [fileArg]
  split
  · rfl
  · rw [Text.encoded_append, Text.encoded_append,
      Text.encoded_of_ascii (show Text.isAscii "/" = true by decide +kernel)]

/-- **When an argument leads to the file that was found.** It does, with one exception: behind a
path that ends with a slash it has a slash more, so it may be too long for the system. -/
theorem Files.HasGoFile.place_fileArg_iff
    (h : files.HasGoFile (join root (Text.encoded scope.path)) name)
    (hslash : '/' ∉ (Text.encoded name).toList) (hpath : scope.path ≠ "") :
    files.place (join root (Text.encoded (scope.fileArg name))) true =
        files.place (join (join root (Text.encoded scope.path)) (Text.encoded name)) true ↔
      (scope.path.toList.getLast? = some '/' →
        (join root (Text.encoded (scope.fileArg name))).length < pathLimit) := by
  have hrelative : isAbsolute (Text.encoded name) = false := by
    rw [Bool.eq_false_iff, Ne, isAbsolute_iff]
    rintro ⟨cs, hcs⟩
    exact hslash (hcs ▸ List.mem_cons_self)
  have hempty : Text.encoded "" = "" := rfl
  have hname : Text.encoded name ≠ "" := by
    rw [← hempty, Text.encoded_injective.ne_iff]
    rintro rfl
    exact absurd h.suffix (by decide)
  have hdir : Text.encoded scope.path ≠ "" := by rwa [← hempty, Text.encoded_injective.ne_iff]
  have hslashed : scope.path.toList.getLast? = some '/' ↔
      (Text.encoded scope.path).toList.getLast? = some '/' :=
    (Text.getLast?_encoded_iff (by decide)).symm
  obtain ⟨place, hplace⟩ := Files.exists_place_of_isFile h.isFile
  rw [join_of_relative hrelative, lead_join hdir] at hplace ⊢
  rw [Scope.encoded_fileArg, hslashed]
  by_cases hdot : scope.path = "."
  · -- The file is found behind a dot, and named without one.
    have hencoded : Text.encoded "." = "." := Text.encoded_of_ascii (by decide +kernel)
    have hjoin : join root "." = lead root ++ "." := join_of_relative (by decide)
    rw [if_pos hdot, join_of_relative hrelative]
    rw [hdot, hencoded, if_neg (by decide), hjoin] at hplace ⊢
    have hlead : lead root = "" ∧ "." ≠ "" ∨ ∃ s, lead root = s ++ "/" :=
      (lead_cases root).imp_left fun hempty => ⟨hempty, by decide⟩
    refine iff_of_true ?_ fun hend => absurd hend (by decide)
    exact (Files.place_append_idle (Or.inr rfl) hlead hname hrelative
      (Files.size_lt_of_place hplace)).symm
  rw [if_neg hdot, String.append_assoc, join_append hdir, ← String.append_assoc]
  by_cases hend : (Text.encoded scope.path).toList.getLast? = some '/'
  · -- The name stands behind the slash of the path, and in the argument behind one more.
    rw [if_pos hend] at hplace ⊢
    have hfront : ∃ s, join root (Text.encoded scope.path) = s ++ "/" :=
      exists_append_slash ((getLast?_join hdir).trans hend)
    constructor
    · exact fun heq _ => Files.size_lt_of_place (heq.trans hplace)
    · intro hshort
      have hidle : IsIdle "" := Or.inl rfl
      simpa only [String.append_empty] using
        Files.place_append_idle hidle (Or.inr hfront) hname hrelative
          (by simpa only [String.append_empty] using hshort hend)
  · rw [if_neg hend]
    exact iff_of_true rfl fun h => absurd h hend

/-! ### The arguments -/

/-- What stands for a scope on the command line of a linter that takes Go files, by what the
directory of the scope holds. -/
inductive GoFilesTarget (files : Files) (root : SystemText) (scope : Scope) :
    Except TemplateError (List String) → Prop
  /-- The directory is there and cannot be listed. -/
  | unlisted {e : SystemError} :
      files.names (join root (Text.encoded scope.path)) = .error e → e ≠ .notFound →
      GoFilesTarget files root scope (.error (.target scope.path e.message))
  /-- The directory is missing, or has no Go file. -/
  | bare :
      (∀ e, files.names (join root (Text.encoded scope.path)) = .error e → e = .notFound) →
      (∀ name, ¬ files.HasGoFile (join root (Text.encoded scope.path)) name) →
      GoFilesTarget files root scope (.ok [scope.arg])
  /-- The directory has Go files: all of them, in the order of the bytes of their names. -/
  | listed {found : List String} :
      found ≠ [] →
      (∀ name, name ∈ found ↔ files.HasGoFile (join root (Text.encoded scope.path)) name) →
      found.Pairwise (fun a b => Text.utf8 a < Text.utf8 b) →
      GoFilesTarget files root scope (.ok (found.map scope.fileArg))

/-- What stands for a scope is unique. -/
theorem GoFilesTarget.unique {r r' : Except TemplateError (List String)}
    (h : GoFilesTarget files root scope r) (h' : GoFilesTarget files root scope r') : r = r' := by
  cases h with
  | unlisted he hne =>
      cases h' with
      | unlisted he' _ =>
          obtain rfl := Except.error.inj (he.symm.trans he')
          rfl
      | bare hnames _ => exact absurd (hnames _ he) hne
      | listed hfull hmem _ =>
          obtain ⟨name, hname⟩ := List.exists_mem_of_ne_nil _ hfull
          obtain ⟨names, hnames, -⟩ := ((hmem name).mp hname).listed
          cases he.symm.trans hnames
  | bare hnames hempty =>
      cases h' with
      | unlisted he hne => exact absurd (hnames _ he) hne
      | bare _ _ => rfl
      | listed hfull hmem _ =>
          obtain ⟨name, hname⟩ := List.exists_mem_of_ne_nil _ hfull
          exact absurd ((hmem name).mp hname) (hempty name)
  | listed hfull hmem hsorted =>
      obtain ⟨name, hname⟩ := List.exists_mem_of_ne_nil _ hfull
      cases h' with
      | unlisted he _ =>
          obtain ⟨names, hnames, -⟩ := ((hmem name).mp hname).listed
          cases he.symm.trans hnames
      | bare _ hempty => exact absurd ((hmem name).mp hname) (hempty name)
      | listed _ hmem' hsorted' =>
          rw [(hsorted.imp Text.lt_iff_utf8_lt.mpr).eq_of_mem_iff
            (hsorted'.imp Text.lt_iff_utf8_lt.mpr) fun n => (hmem n).trans (hmem' n).symm]

/-- The arguments for a scope are as its directory has it. -/
theorem TargetStyle.goFilesTarget_args (hnamed : files.root.WellNamed) (root : SystemText)
    (scope : Scope) :
    GoFilesTarget files root scope (TargetStyle.goFiles.args files root scope) := by
  obtain ⟨hargs, hpath | hfound⟩ | ⟨-, found, hfull, hfound, hargs⟩ | ⟨-, e, hfound, hargs⟩ :=
    TargetStyle.goFiles.args_cases files root scope
  · cases hpath
  · rw [hargs]
    refine .bare (fun e he => Classical.byContradiction fun hne => ?_) fun name hname => ?_
    · cases hfound.symm.trans (Files.goFilesIn_eq_error_iff.mpr ⟨he, hne⟩)
    · exact absurd ((Files.mem_goFilesIn_iff hfound).mpr hname) List.not_mem_nil
  · rw [hargs]
    refine .listed hfull (fun name => Files.mem_goFilesIn_iff hfound)
      (Files.pairwise_goFilesIn hfound fun names hnames => ?_)
    obtain ⟨place, entries, hdir, -, rfl⟩ := Files.names_eq_ok_iff.mp hnames
    exact hnamed.nodup hdir
  · rw [hargs]
    obtain ⟨he, hne⟩ := Files.goFilesIn_eq_error_iff.mp hfound
    exact .unlisted he hne

/-- **The Go files of a scope.** The arguments for a scope are what its directory makes them, and
nothing else. Read from the working root, the argument for a Go file leads to that file for every
path of the scope that is not empty, as long as a slash at its end does not make the argument too
long. For the empty path, which stands for the root, the argument is the name behind a slash, but no
list of files has a scope with this path. -/
theorem go_files_of_scope (hnamed : files.root.WellNamed) (root : SystemText) (scope : Scope) :
    (∀ result, TargetStyle.goFiles.args files root scope = result ↔
        GoFilesTarget files root scope result) ∧
      (∀ name, files.HasGoFile (join root (Text.encoded scope.path)) name →
        (scope.path ≠ "" →
          (files.place (join root (Text.encoded (scope.fileArg name))) true =
              files.place (join (join root (Text.encoded scope.path)) (Text.encoded name)) true ↔
            (scope.path.toList.getLast? = some '/' →
              (join root (Text.encoded (scope.fileArg name))).length < pathLimit))) ∧
        (scope.path = "" →
          join root (Text.encoded (scope.fileArg name)) = "/" ++ Text.encoded name)) ∧
      ∀ listed, scope.path ∈ (Scopes.ofFiles listed).packages ∨
        scope.path ∈ (Scopes.ofFiles listed).directories → scope.path ≠ "" := by
  have htarget := TargetStyle.goFilesTarget_args hnamed root scope
  refine ⟨fun result => ⟨fun h => h ▸ htarget, htarget.unique⟩, fun name hname => ⟨?_, ?_⟩,
    fun listed hscope => ?_⟩
  · obtain ⟨names, hnames, hmem⟩ := hname.listed
    obtain ⟨place, entries, hdir, -, rfl⟩ := Files.names_eq_ok_iff.mp hnames
    exact hname.place_fileArg_iff (hnamed.noSlash hdir _ hmem)
  · intro hempty
    have harg : Text.encoded (scope.fileArg name) = "/" ++ Text.encoded name := by
      rw [Scope.encoded_fileArg, hempty, if_neg (by decide)]
      rfl
    have habs : isAbsolute ("/" ++ Text.encoded name) = true := by simp [isAbsolute]
    rw [harg, join_of_absolute root habs]
  · obtain ⟨hpackages, hdirectories⟩ := (Scopes.gathered_ofFiles listed).empty_notMem
    intro hempty
    rw [hempty] at hscope
    exact hscope.elim hpackages hdirectories

/-- A repository with two Go files in its root, and one with a name that is not UTF-8. -/
def flatFiles : Files :=
  ⟨.dir [("repo", .dir [("b.go", .file ⟨#[]⟩ false), ("a.go", .file ⟨#[]⟩ false),
    ("\u00ff.go", .file ⟨#[]⟩ false), ("README.md", .file ⟨#[]⟩ false)])], ["repo"]⟩

theorem wellNamed_flatFiles : flatFiles.root.WellNamed := by
  refine Node.wellNamed_dir (by decide) (by decide) (List.forall_mem_singleton.mpr ?_)
  refine Node.wellNamed_dir (by decide) (by decide) fun e he => Node.wellNamed_of_isDir ?_
  simp only [List.mem_cons, List.not_mem_nil, or_false] at he
  obtain rfl | rfl | rfl | rfl := he <;> rfl

theorem encoded_goName : Text.encoded "a.go" = "a.go" ∧ Text.encoded "b.go" = "b.go" :=
  ⟨Text.encoded_of_ascii (by decide +kernel), Text.encoded_of_ascii (by decide +kernel)⟩

/-- The Go files of the repository, by any path to its root. -/
theorem hasGoFile_flatFiles_iff (hdir : flatFiles.place dir true = .ok ["repo"])
    (ha : flatFiles.place (join dir "a.go") true = .ok ["repo", "a.go"])
    (hb : flatFiles.place (join dir "b.go") true = .ok ["repo", "b.go"]) :
    name ∈ ["a.go", "b.go"] ↔ flatFiles.HasGoFile dir name := by
  have hnames : flatFiles.names dir = .ok ["b.go", "a.go", "\u00ff.go", "README.md"] :=
    Files.names_eq_ok_iff.mpr ⟨_, _, rfl, hdir, rfl⟩
  have hfile {path : SystemText} {place : Place} (hplace : flatFiles.place path true = .ok place)
      (hn : flatFiles.root.get? place = some (.file ⟨#[]⟩ false)) :
      flatFiles.isFile path = true := by
    rw [Files.isFile, Files.node_eq_ok_iff.mpr ⟨place, hplace, hn⟩]
    rfl
  obtain ⟨hencodedA, hencodedB⟩ := encoded_goName
  constructor
  · intro hmem
    obtain rfl | hmem := List.mem_cons.mp hmem
    · exact ⟨⟨_, hnames, by rw [hencodedA]; decide⟩, hfile (hencodedA.symm ▸ ha) rfl, by decide,
        by decide⟩
    · obtain rfl := List.mem_singleton.mp hmem
      exact ⟨⟨_, hnames, by rw [hencodedB]; decide⟩, hfile (hencodedB.symm ▸ hb) rfl, by decide,
        by decide⟩
  · rintro ⟨⟨names, hlisted, hname⟩, -, hsuffix, -⟩
    obtain rfl := Except.ok.inj (hnames.symm.trans hlisted)
    -- A name is the text of its entry, if the entry has one.
    have hdecoded := fun entry (h : Text.encoded name = entry) =>
      Text.decoded?_eq_some_iff.mpr h.symm
    simp only [List.mem_cons, List.not_mem_nil, or_false] at hname
    obtain h | h | h | h := hname
    · obtain rfl := Option.some.inj
        ((Text.decoded?_of_ascii (by decide +kernel)).symm.trans (hdecoded _ h))
      decide
    · obtain rfl := Option.some.inj
        ((Text.decoded?_of_ascii (by decide +kernel)).symm.trans (hdecoded _ h))
      decide
    · have hnone : Text.decoded? "\u00ff.go" = none := by decide +kernel
      cases hnone.symm.trans (hdecoded _ h)
    · obtain rfl := Option.some.inj
        ((Text.decoded?_of_ascii (by decide +kernel)).symm.trans (hdecoded _ h))
      exact absurd hsuffix (by decide)

/-- The Go files of the root are sorted, and lead where they were found. -/
theorem flatFiles_sorted :
    flatFiles.root.WellNamed ∧
      TargetStyle.goFiles.args flatFiles "/repo" ⟨.directory, "."⟩ = .ok ["a.go", "b.go"] ∧
      flatFiles.place "/repo/a.go" true = flatFiles.place "/repo/./a.go" true := by
  have hdir : flatFiles.place "/repo/." true = .ok ["repo"] := by
    rw [Files.place_of_walk (show _ = '/' :: "repo/.".toList from rfl) (by decide) (by decide)]
    cbv
  have ha : flatFiles.place "/repo/./a.go" true = .ok ["repo", "a.go"] := by
    rw [Files.place_of_walk (show _ = '/' :: "repo/./a.go".toList from rfl) (by decide) (by decide)]
    cbv
  have hb : flatFiles.place "/repo/./b.go" true = .ok ["repo", "b.go"] := by
    rw [Files.place_of_walk (show _ = '/' :: "repo/./b.go".toList from rfl) (by decide) (by decide)]
    cbv
  have hfiles (name : String) : name ∈ ["a.go", "b.go"] ↔ flatFiles.HasGoFile "/repo/." name :=
    hasGoFile_flatFiles_iff hdir ha hb
  obtain ⟨hargs, hlead, -⟩ :=
    go_files_of_scope wellNamed_flatFiles "/repo" ⟨.directory, "."⟩
  have htarget : GoFilesTarget flatFiles "/repo" ⟨.directory, "."⟩
      (.ok (["a.go", "b.go"].map (Scope.fileArg ⟨.directory, "."⟩))) :=
    .listed (by decide) hfiles (by decide)
  refine ⟨wellNamed_flatFiles, (hargs _).mpr htarget, ?_⟩
  exact ((hlead "a.go" ((hfiles "a.go").mp (by decide))).1 (by decide)).mpr (by decide)

/-- Behind an empty path, the Go files of the root are named by absolute paths, which lead
nowhere. The root itself is named by a path from it. -/
theorem empty_scope_absolute :
    TargetStyle.goFiles.args flatFiles "/repo" ⟨.directory, ""⟩ = .ok ["/a.go", "/b.go"] ∧
      TargetStyle.path.args flatFiles "/repo" ⟨.directory, ""⟩ = .ok ["./"] ∧
      flatFiles.isFile (join (join "/repo" "") "a.go") = true ∧
      flatFiles.place (join "/repo" "/a.go") true = .error .notFound := by
  have hdir : flatFiles.place "/repo/" true = .ok ["repo"] := by
    rw [Files.place_of_walk (show _ = '/' :: "repo/".toList from rfl) (by decide) (by decide)]
    cbv
  have ha : flatFiles.place "/repo/a.go" true = .ok ["repo", "a.go"] := by
    rw [Files.place_of_walk (show _ = '/' :: "repo/a.go".toList from rfl) (by decide) (by decide)]
    cbv
  have hb : flatFiles.place "/repo/b.go" true = .ok ["repo", "b.go"] := by
    rw [Files.place_of_walk (show _ = '/' :: "repo/b.go".toList from rfl) (by decide) (by decide)]
    cbv
  have hfiles (name : String) : name ∈ ["a.go", "b.go"] ↔ flatFiles.HasGoFile "/repo/" name :=
    hasGoFile_flatFiles_iff hdir ha hb
  have htarget : GoFilesTarget flatFiles "/repo" ⟨.directory, ""⟩
      (.ok (["a.go", "b.go"].map (Scope.fileArg ⟨.directory, ""⟩))) :=
    .listed (by decide) hfiles (by decide)
  refine ⟨(TargetStyle.goFilesTarget_args wellNamed_flatFiles "/repo" _).unique htarget, by decide,
    ((hfiles "a.go").mp (by decide)).isFile, ?_⟩
  rw [join_of_absolute "/repo" (by decide),
    Files.place_of_walk (show _ = '/' :: "a.go".toList from rfl) (by decide) (by decide)]
  cbv

end LintVerdict
