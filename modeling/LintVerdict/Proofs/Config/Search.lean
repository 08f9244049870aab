import LintVerdict.Proofs.Config
import LintVerdict.Proofs.FileList
import LintVerdict.Proofs.Files.Growth
import LintVerdict.Proofs.Files.Location
import LintVerdict.Proofs.FirstError

/-!
# The nearest configuration

The directories from the start upward are searched one after the other, up to the first one that
holds a repository. The file lists the places of the search beforehand and shows that the first file
among them is found. A configuration is read from the given file, from the one that is found, or not
at all: a file that cannot be used is an error, and no other one is tried.

## Main definitions

* `Config.upward`: a directory and those above it.
* `Config.candidates`: the places where a configuration file is looked for, in order.
* `Config.Holds`, `Config.Broken`: a document that is a configuration, and one that is none.

## Main results

* `Config.discover?_eq`: the first file among the places is found.
* `Config.load_eq_ok_iff`, `Config.load_eq_error_iff`: what is loaded from a chosen file.
* `nearest_configuration`: the search and the loading together.
-/

namespace LintVerdict

namespace Config

variable {files : Files}

/-! ### The search -/

/-- A directory and those above it, the nearest first, at most so many. -/
def upward : Nat → SystemText → List SystemText
  | 0, _ => []
  | limit + 1, dir => dir :: (FilePath.parent? dir).elim [] (upward limit)

/-- Whether a directory holds a repository. -/
def holdsRepository (files : Files) (dir : SystemText) : Bool :=
  files.has (FilePath.join dir ".git")

/-- The directories up to the first one that holds a repository, that one included. -/
def toRepository (files : Files) (dirs : List SystemText) : List SystemText :=
  dirs.take (dirs.findIdx (holdsRepository files) + 1)

/-- The places where a configuration file is looked for, in order: two in each of at most 100
directories. -/
def candidates (files : Files) (start : SystemText) : List SystemText :=
  (toRepository files (upward 100 start)).flatMap fun dir =>
    [FilePath.join dir ".codenanny.toml", FilePath.join dir "codenanny.toml"]

/-- The search goes on above a directory without a repository only. -/
theorem toRepository_cons (dir : SystemText) (dirs : List SystemText) :
    toRepository files (dir :: dirs) =
      if holdsRepository files dir then [dir] else dir :: toRepository files dirs :=
  take_findIdx_cons (holdsRepository files) dir dirs

/-- The first file in the directories up to a repository is found. -/
theorem search?_eq (limit : Nat) (dir : SystemText) :
    search? files limit dir =
      ((toRepository files (upward limit dir)).flatMap fun dir =>
        fileNames.map (FilePath.join dir)).find? files.isFile := by
  -- The directories above count only where this one has neither a file nor a repository.
  induction limit generalizing dir with
  | zero => rfl
  | succ limit ih =>
      rw [search?, upward, toRepository_cons, inDirectory?, ← holdsRepository]
      cases hhere : (fileNames.map (FilePath.join dir)).find? files.isFile with
      | some path =>
          cases holdsRepository files dir <;> simp [hhere]
      | none =>
          cases holdsRepository files dir with
          | true => simp [hhere]
          | false =>
              cases FilePath.parent? dir with
              | none => simp [hhere, toRepository]
              | some up => simp [hhere, ih]

/-- **The first file among the places of the search is found.** -/
theorem discover?_eq (files : Files) (start : SystemText) :
    discover? files start = (candidates files start).find? files.isFile :=
  search?_eq searchLimit start

/-! ### Loading -/

variable {given : Option SystemText} {start path : SystemText} {c : Config} {e : ConfigError}
  {name document : String}

theorem ofFile_eq_ok_iff :
    ofFile files path = .ok c ↔
      ∃ document, files.readText path = .ok document ∧ Holds document c := by
  rw [ofFile]
  cases files.readText path <;> simp [ofText_eq_ok_iff]

/-- A file is unusable if it cannot be read or holds no configuration. -/
theorem ofFile_eq_error_iff :
    ofFile files path = .error e ↔
      (∃ reason, files.readText path = .error reason ∧
          e = .unreadable (Text.decoded path) reason) ∨
        ∃ document, files.readText path = .ok document ∧ Broken document ∧
          e = .malformed (Text.decoded path) notConfiguration := by
  rw [ofFile]
  cases files.readText path with
  | error reason => simp [eq_comm]
  | ok document => simp [ofText_eq_error_iff]

/-- The default stands without a file, and only there. -/
theorem load_eq_default_iff :
    load files given start = .ok (c, none) ↔
      given.or (discover? files start) = none ∧ c = default := by
  rw [load, Option.orElse_eq_or]
  cases given.or (discover? files start) with
  | none => simp [eq_comm]
  | some path => cases hfile : ofFile files path <;> simp [hfile, Except.map]

/-- **A chosen file gives the configuration that it holds.** -/
theorem load_eq_ok_iff :
    load files given start = .ok (c, some path) ↔
      given.or (discover? files start) = some path ∧
        ∃ document, files.readText path = .ok document ∧ Holds document c := by
  rw [load, Option.orElse_eq_or, ← ofFile_eq_ok_iff]
  cases given.or (discover? files start) with
  | none => simp
  | some chosen =>
      rw [Option.some.injEq]
      constructor
      · intro h
        cases hfile : ofFile files chosen with
        | error e => simp [hfile, Except.map] at h
        | ok c' =>
            obtain ⟨rfl, rfl⟩ : c' = c ∧ chosen = path := by simpa [hfile, Except.map] using h
            exact ⟨rfl, hfile⟩
      · rintro ⟨rfl, hfile⟩
        simp [hfile, Except.map]

/-- **A chosen file that cannot be used is an error**, and the only one. -/
theorem load_eq_error_iff :
    load files given start = .error e ↔
      ∃ path, given.or (discover? files start) = some path ∧
        ((∃ reason, files.readText path = .error reason ∧
            e = .unreadable (Text.decoded path) reason) ∨
          ∃ document, files.readText path = .ok document ∧ Broken document ∧
            e = .malformed (Text.decoded path) notConfiguration) := by
  simp only [← ofFile_eq_error_iff]
  rw [load, Option.orElse_eq_or]
  cases given.or (discover? files start) with
  | none => simp
  | some chosen =>
      cases hfile : ofFile files chosen <;> simp [hfile, Except.map]

end Config

/-- **The nearest configuration is loaded, or an error tells why it cannot be.** The search finds
the first file among the places of the search. A given file is used instead, and then nothing counts
but what is read from it. Without a chosen file, and only then, the default stands for one. A
chosen file that cannot be read is an error, and so is one whose document cannot be read as a table
or whose table is no configuration. -/
theorem nearest_configuration (files : Files) (start : SystemText) :
    Config.discover? files start = (Config.candidates files start).find? files.isFile ∧
      (∀ path files' start', files'.readText path = files.readText path →
        Config.load files' (some path) start' = Config.load files (some path) start) ∧
      ∀ given,
        (∀ c, Config.load files given start = .ok (c, none) ↔
          given = none ∧ Config.discover? files start = none ∧ c = .default) ∧
        (∀ c path, Config.load files given start = .ok (c, some path) ↔
          given.or (Config.discover? files start) = some path ∧
            ∃ document, files.readText path = .ok document ∧ Config.Holds document c) ∧
        ∀ e, Config.load files given start = .error e ↔
          ∃ path, given.or (Config.discover? files start) = some path ∧
            ((∃ reason, files.readText path = .error reason ∧
                e = .unreadable (Text.decoded path) reason) ∨
              ∃ document, files.readText path = .ok document ∧ Config.Broken document ∧
                e = .malformed (Text.decoded path) Config.notConfiguration) := by
  refine ⟨Config.discover?_eq files start, fun path files' start' hread => ?_, fun given =>
    ⟨fun c => ?_, fun c path => Config.load_eq_ok_iff, fun e => Config.load_eq_error_iff⟩⟩
  · simp only [Config.load, Option.orElse_some, Config.ofFile, hread]
  · rw [Config.load_eq_default_iff, Option.or_eq_none_iff, and_assoc]

/-- A directory whose configuration is broken, below one with another configuration. -/
def brokenView : Files where
  root := .dir [("codenanny.toml", .file "timeout = 1".toUTF8 false),
    ("work", .dir [(".codenanny.toml", .file "timeout".toUTF8 false)])]
  cwd := ["work"]

/-- A broken configuration is an error, and the one above it is not tried. -/
theorem nearest_configuration_broken :
    Config.Broken "timeout" ∧
      brokenView.isFile "/codenanny.toml" = true ∧
      Config.discover? brokenView "/work" = some "/work/.codenanny.toml" ∧
      Config.load brokenView none "/work" =
        .error (.malformed "/work/.codenanny.toml" Config.notConfiguration) := by
  have hbroken : Config.Broken "timeout" := Or.inl (by decide +kernel)
  have habove : brokenView.isFile "/codenanny.toml" = true := by
    rw [Files.isFile, Files.node_eq_ok_iff.mpr ⟨["codenanny.toml"], ?_, rfl⟩]
    · rfl
    · rw [Files.place_of_walk (show _ = '/' :: "codenanny.toml".toList from rfl)
        (by decide) (by decide)]
      cbv
  have hplace :
      brokenView.place "/work/.codenanny.toml" true = .ok ["work", ".codenanny.toml"] := by
    rw [Files.place_of_walk (show _ = '/' :: "work/.codenanny.toml".toList from rfl)
      (by decide) (by decide)]
    cbv
  have hnode : brokenView.node "/work/.codenanny.toml" = .ok (.file "timeout".toUTF8 false) :=
    Files.node_eq_ok_iff.mpr ⟨_, hplace, rfl⟩
  have hfile : brokenView.isFile "/work/.codenanny.toml" = true := by
    rw [Files.isFile, hnode]
    rfl
  have htext : brokenView.readText "/work/.codenanny.toml" = .ok "timeout" := by
    rw [Files.readText_eq_ok_iff, Files.read, hnode]
    rfl
  obtain ⟨hfound, -, hload⟩ := nearest_configuration brokenView "/work"
  have hfirst : ∃ rest, Config.candidates brokenView "/work" = "/work/.codenanny.toml" :: rest := by
    rw [Config.candidates, Config.upward, Config.toRepository_cons]
    split <;> exact ⟨_, rfl⟩
  obtain ⟨rest, hrest⟩ := hfirst
  rw [hrest, List.find?_cons_of_pos hfile] at hfound
  refine ⟨hbroken, habove, hfound, ((hload none).2.2 _).mpr ⟨_, ?_, Or.inr ⟨_, htext, hbroken, ?_⟩⟩⟩
  · exact hfound
  · rw [Text.decoded_of_ascii (by decide +kernel)]

end LintVerdict
