import LintVerdict.Config
import LintVerdict.Proofs.Files.Location

/-!
# Finding the configuration

A configuration file is looked for on the way up from the current directory. Where there is none,
the default holds, which knows the built-in linters. A file that is no document, and a document that
is no configuration, are refused.

## Main definitions

* `Config.Holds`, `Config.Broken`: the documents of which a configuration is read, and the others.

## Main results

* `Config.load_of_no_entry`: from the root of a tree without a configuration file the default is
  loaded.
* `Config.registry_default`: the default knows the built-in linters and no others.
-/

namespace LintVerdict

variable {f : Files} {path name : String} {e : SystemError} {entries : List (String × Node)}

/-! ### Without a file -/

namespace Config

/-- Without a file in the current directory and without a directory above it the default is
loaded. -/
theorem load_of_no_file (hup : FilePath.parent? f.here = none)
    (h : ∀ name ∈ fileNames, f.isFile (FilePath.join f.here name) = false) :
    load f none f.here = .ok (default, none) := by
  have hnone : inDirectory? f f.here = none := by
    rw [inDirectory?, List.find?_eq_none]
    simpa using h
  have hdiscover : discover? f f.here = none := by
    rw [discover?, searchLimit, search?, hnone, hup]
    simp
  rw [load, hdiscover]
  rfl

/-- **From the root of a tree without a configuration file the default is loaded.** -/
theorem load_of_no_entry (hcwd : f.cwd = []) (hroot : f.root = .dir entries)
    (h : ∀ name ∈ fileNames, entries.find? (fun e => e.1 = name) = none) :
    load f none f.here = .ok (default, none) := by
  have hhere : f.here = "/" := by
    rw [Files.here, hcwd]
    decide
  have hnames : ∀ name ∈ fileNames,
      (FilePath.join "/" name).toList = '/' :: name.toList ∧
        (name ≠ "" ∧ name ≠ "." ∧ name ≠ ".." ∧ name.length ≤ nameLimit) ∧
        '/' ∉ name.toList ∧ '\x00' ∉ (FilePath.join "/" name).toList ∧
        (FilePath.join "/" name).length < pathLimit := by
    decide
  refine load_of_no_file (hhere ▸ by decide) fun name hmem => ?_
  obtain ⟨hpath, ⟨hempty, hdot, hup, hsize⟩, hslash, hzero, hshort⟩ := hnames name hmem
  rw [hhere]
  exact Files.isFile_of_place_error (Files.place_of_no_entry hpath ⟨hempty, hdot, hup, hsize⟩
    hslash hzero hshort hroot (h name hmem))

/-- The default knows the built-in linters and no others. -/
theorem registry_default : registry default = .ok .builtin := rfl

/-! ### Documents -/

/-- A document of which a configuration is read. -/
def Holds (document : String) (c : Config) : Prop :=
  ∃ value, Toml.read? document = some value ∧ ofToml? value = some c

/-- A document that cannot be read, or whose table is no configuration. -/
def Broken (document : String) : Prop :=
  Toml.read? document = none ∨ ∃ value, Toml.read? document = some value ∧ ofToml? value = none

variable {name document : String} {c : Config} {fault : ConfigError}

/-- A configuration is read of a document that holds it. -/
theorem ofText_eq_ok_iff : ofText name document = .ok c ↔ Holds document c := by
  rw [ofText, Holds]
  cases Toml.read? document with
  | none => simp
  | some value => cases hc : ofToml? value <;> simp [hc]

/-- A document is refused for one reason only. -/
theorem ofText_eq_error_iff :
    ofText name document = .error fault ↔
      Broken document ∧ fault = .malformed name notConfiguration := by
  rw [ofText, Broken]
  cases Toml.read? document with
  | none => simp [eq_comm]
  | some value => cases hc : ofToml? value <;> simp [hc, eq_comm]

end Config

end LintVerdict
