import Mathlib.Data.List.Pairwise
import LintVerdict.Proofs.Scope.Directory

/-!
# Distinct scopes

A directory is put among the scopes unless its text is there already. But one directory has many
texts: an empty piece or a dot between two slashes names nothing. Each `./` at the start of an entry
is taken away, and what names nothing further in stays. So two scopes are the same directory exactly
if two entries spell it differently behind their start.

## Main definitions

* `FilePath.SameDirectory`: paths that are the same directory by their names.
* `FilePath.plain`: the text of a directory in which each piece names something.
* `FilePath.ListedIn`: the directory that an entry gives, by its text.
* `FilePath.SpelledAlike`: entries that spell their directory alike if it is one.

## Main results

* `FilePath.listedIn_iff`: the directory of a file in its normal form.
* `Scopes.mem_directories_iff`, `Scopes.mem_packages_iff`: the scopes of a list are the directories
  of its entries.
* `scopes_distinct_iff`: when the scopes are distinct directories.
-/

namespace LintVerdict

namespace FilePath

/-- Two paths that are the same directory by their names: both begin at the root or none of them
does, and they go through the same names. -/
def SameDirectory (p q : String) : Prop :=
  isAbsolute p = isAbsolute q ∧ components p.toList = components q.toList

instance (p q : String) : Decidable (SameDirectory p q) :=
  inferInstanceAs (Decidable (_ ∧ _))

/-- The text of a directory in which each piece names something. -/
def plain (dir : String) : String :=
  let names := components dir.toList
  if isAbsolute dir then String.ofList ('/' :: List.intercalate ['/'] names)
  else if names = [] then "."
  else String.ofList (List.intercalate ['/'] names)

/-- The directory that an entry of a file list gives, by its text. Each `./` at the start of the
entry is taken away, and the directory is what stands before the last slash of the rest. Where
nothing stands there, it is the root. -/
inductive ListedIn (file : String) : String → Prop
  | mk {n : Nat} {rest dir : List Char} :
      entered file.toList = (List.replicate n ['.', '/']).flatten ++ rest → rest ≠ [] →
      ¬ ['.', '/'] <+: rest → WrittenIn rest dir →
      ListedIn file (String.ofList (if dir = [] then ['/'] else dir))

/-- Two entries that spell their directory alike, if it is the same one. -/
def SpelledAlike (f g : String) : Prop :=
  ∀ d e, ListedIn f d → ListedIn g e → SameDirectory d e → d = e

/-- An entry that names a Go file. -/
def IsGoEntry (file : String) : Prop := ['.', 'g', 'o'] <:+ entered file.toList

variable {file dir : String} {path : List Char}

/-! ### The directory of an entry -/

/-- No `./` is left at the start. -/
theorem not_prefix_dropDotSlash (path : List Char) : ¬ ['.', '/'] <+: dropDotSlash path := by
  induction path using dropDotSlash.induct with
  | case1 path ih => rwa [dropDotSlash]
  | case2 path hpath =>
      rw [dropDotSlash.eq_2 path hpath]
      rintro ⟨rest, rfl⟩
      exact hpath rest rfl

theorem dropDotSlash_of_not_prefix (h : ¬ ['.', '/'] <+: path) : dropDotSlash path = path := by
  refine dropDotSlash.eq_2 path ?_
  rintro rest rfl
  exact h (List.prefix_append ['.', '/'] rest)

/-- The directory that is read off a file is the one in which it is written. -/
theorem WrittenIn.parent_eq {front : List Char} (h : WrittenIn path front) :
    parent path = if front = [] then ['/'] else front := by
  cases h with
  | here hpath =>
      rw [parent, beforeLastSlash_of_notMem hpath]
      rfl
  | below hname =>
      rw [parent, beforeLastSlash_append _ hname]
      cases front <;> rfl

/-- **The directory of an entry** is that of its normal form. -/
theorem listedIn_iff :
    ListedIn file dir ↔ ∃ cs, normalize file.toList = some cs ∧ Scopes.dirOf cs = dir := by
  constructor
  · rintro @⟨n, rest, front, hentered, hne, hstart, hfront⟩
    refine ⟨rest, normalize_eq_some_iff.mpr ⟨hne, ?_⟩, ?_⟩
    · rw [hentered, dropDotSlash_append, dropDotSlash_of_not_prefix hstart]
    · rw [Scopes.dirOf, hfront.parent_eq]
  · rintro ⟨cs, hcs, rfl⟩
    obtain ⟨hne, hdrop⟩ := normalize_eq_some_iff.mp hcs
    obtain ⟨n, hn⟩ := exists_dotSlashes (entered file.toList)
    rw [hdrop] at hn
    have hfront := writtenIn_beforeLastSlash cs
    have hlisted := ListedIn.mk hn hne (hdrop ▸ not_prefix_dropDotSlash _) hfront
    rwa [← hfront.parent_eq] at hlisted

/-- Whether an entry names a Go file is seen on its normal form. -/
theorem isGo_dropDotSlash (path : List Char) : isGo (dropDotSlash path) = isGo path := by
  induction path using dropDotSlash.induct with
  | case1 path ih =>
      rw [dropDotSlash, ih, Bool.eq_iff_iff, isGo, isGo, List.isSuffixOf_iff_suffix,
        List.isSuffixOf_iff_suffix, List.suffix_cons_iff, List.suffix_cons_iff]
      simp
  | case2 path hpath => rw [dropDotSlash.eq_2 path hpath]

theorem isGo_iff {cs : List Char} (h : normalize file.toList = some cs) :
    isGo cs = true ↔ IsGoEntry file := by
  rw [← (normalize_eq_some_iff.mp h).2, isGo_dropDotSlash, isGo, List.isSuffixOf_iff_suffix,
    IsGoEntry]

/-! ### Plain texts -/

theorem plain_eq_of_sameDirectory {p q : String} (h : SameDirectory p q) : plain p = plain q := by
  rw [plain, plain, h.1, h.2]

/-- Entries with plain directories spell them alike. -/
theorem spelledAlike_of_plain {f g : String} (hf : ∀ d, ListedIn f d → plain d = d)
    (hg : ∀ d, ListedIn g d → plain d = d) : SpelledAlike f g := by
  intro d e hd he hsame
  rw [← hf d hd, ← hg e he, plain_eq_of_sameDirectory hsame]

end FilePath

/-! ### The scopes of a list -/

open FilePath

namespace Scopes

variable {files : List String} {dir : String}

/-- The directories are those of the entries. -/
theorem mem_directories_iff :
    dir ∈ (ofFiles files).directories ↔ ∃ file ∈ files, ListedIn file dir := by
  simp only [ofFiles_eq, List.mem_eraseDups, normalized, List.mem_map, List.mem_filterMap,
    listedIn_iff]
  constructor
  · rintro ⟨cs, ⟨file, hfile, hcs⟩, hdir⟩
    exact ⟨file, hfile, cs, hcs, hdir⟩
  · rintro ⟨file, hfile, cs, hcs, hdir⟩
    exact ⟨cs, ⟨file, hfile, hcs⟩, hdir⟩

/-- The packages are the directories of the Go files. -/
theorem mem_packages_iff :
    dir ∈ (ofFiles files).packages ↔ ∃ file ∈ files, IsGoEntry file ∧ ListedIn file dir := by
  simp only [ofFiles_eq, List.mem_eraseDups, normalized, List.mem_map, List.mem_filter,
    List.mem_filterMap, listedIn_iff]
  constructor
  · rintro ⟨cs, ⟨⟨file, hfile, hcs⟩, hgo⟩, hdir⟩
    exact ⟨file, hfile, (isGo_iff hcs).mp hgo, cs, hcs, hdir⟩
  · rintro ⟨file, hfile, hgo, cs, hcs, hdir⟩
    exact ⟨cs, ⟨⟨file, hfile, hcs⟩, (isGo_iff hcs).mpr hgo⟩, hdir⟩

theorem nodup_directories (files : List String) : (ofFiles files).directories.Nodup := by
  rw [ofFiles_eq]
  exact nodup_eraseDups _

theorem nodup_packages (files : List String) : (ofFiles files).packages.Nodup := by
  rw [ofFiles_eq]
  exact nodup_eraseDups _

end Scopes

/-- Different texts are different directories exactly if no directory has two texts. -/
theorem pairwise_not_sameDirectory_iff {dirs : List String} (h : dirs.Nodup) :
    dirs.Pairwise (fun d e => ¬ SameDirectory d e) ↔
      ∀ d ∈ dirs, ∀ e ∈ dirs, SameDirectory d e → d = e := by
  constructor
  · intro hdistinct d hd e he hsame
    have hsymm : Std.Symm fun d e => ¬ SameDirectory d e :=
      ⟨fun _ _ hnot hback => hnot ⟨hback.1.symm, hback.2.symm⟩⟩
    by_contra hne
    exact hdistinct.forall hd he hne hsame
  · intro hone
    exact h.pairwise_of_forall_ne fun d hd e he hne hsame => hne (hone d hd e he hsame)

/-- **When the scopes are distinct directories.** No directory is among the directory scopes twice
exactly if no two entries of the list spell one directory in two ways, and among the packages
exactly if no two Go files do. This is so in particular if each piece of a directory names
something. -/
theorem scopes_distinct_iff (files : List String) :
    ((Scopes.ofFiles files).directories.Pairwise (fun d e => ¬ SameDirectory d e) ↔
        ∀ f ∈ files, ∀ g ∈ files, SpelledAlike f g) ∧
      ((Scopes.ofFiles files).packages.Pairwise (fun d e => ¬ SameDirectory d e) ↔
        ∀ f ∈ files, ∀ g ∈ files, IsGoEntry f → IsGoEntry g → SpelledAlike f g) ∧
      ((∀ f ∈ files, ∀ d, ListedIn f d → plain d = d) →
        (Scopes.ofFiles files).directories.Pairwise (fun d e => ¬ SameDirectory d e) ∧
          (Scopes.ofFiles files).packages.Pairwise (fun d e => ¬ SameDirectory d e)) := by
  have hdirectories : (Scopes.ofFiles files).directories.Pairwise
      (fun d e => ¬ SameDirectory d e) ↔ ∀ f ∈ files, ∀ g ∈ files, SpelledAlike f g := by
    rw [pairwise_not_sameDirectory_iff (Scopes.nodup_directories files)]
    simp only [Scopes.mem_directories_iff]
    constructor
    · exact fun h f hf g hg d e hd he => h d ⟨f, hf, hd⟩ e ⟨g, hg, he⟩
    · rintro h d ⟨f, hf, hd⟩ e ⟨g, hg, he⟩
      exact h f hf g hg d e hd he
  have hpackages : (Scopes.ofFiles files).packages.Pairwise (fun d e => ¬ SameDirectory d e) ↔
      ∀ f ∈ files, ∀ g ∈ files, IsGoEntry f → IsGoEntry g → SpelledAlike f g := by
    rw [pairwise_not_sameDirectory_iff (Scopes.nodup_packages files)]
    simp only [Scopes.mem_packages_iff]
    constructor
    · exact fun h f hf g hg hfgo hggo d e hd he => h d ⟨f, hf, hfgo, hd⟩ e ⟨g, hg, hggo, he⟩
    · rintro h d ⟨f, hf, hfgo, hd⟩ e ⟨g, hg, hggo, he⟩
      exact h f hf g hg hfgo hggo d e hd he
  refine ⟨hdirectories, hpackages, fun hplain => ?_⟩
  have halike : ∀ f ∈ files, ∀ g ∈ files, SpelledAlike f g :=
    fun f hf g hg => spelledAlike_of_plain (hplain f hf) (hplain g hg)
  exact ⟨hdirectories.mpr halike, hpackages.mpr fun f hf g hg _ _ => halike f hf g hg⟩

/-- Entries with and without a leading `./`. -/
theorem scopes_distinct_iff_dotted :
    (∀ f ∈ ["./pkg/a.go", "pkg/b.go", "docs/x.md"], ∀ d, ListedIn f d → plain d = d) ∧
      (Scopes.ofFiles ["./pkg/a.go", "pkg/b.go", "docs/x.md"]).directories = ["pkg", "docs"] ∧
      ["pkg", "docs"].Pairwise (fun d e => ¬ SameDirectory d e) := by
  have hplain : ∀ f ∈ ["./pkg/a.go", "pkg/b.go", "docs/x.md"], ∀ d, ListedIn f d → plain d = d := by
    have hdirs : ∀ f ∈ ["./pkg/a.go", "pkg/b.go", "docs/x.md"],
        ∀ cs ∈ normalize f.toList, plain (Scopes.dirOf cs) = Scopes.dirOf cs := by
      decide
    intro f hf d hd
    obtain ⟨cs, hcs, rfl⟩ := listedIn_iff.mp hd
    exact hdirs f hf cs hcs
  have hscopes : (Scopes.ofFiles ["./pkg/a.go", "pkg/b.go", "docs/x.md"]).directories =
      ["pkg", "docs"] := by
    decide
  exact ⟨hplain, hscopes, hscopes ▸ ((scopes_distinct_iff _).2.2 hplain).1⟩

/-- A doubled slash gives a directory a second time. -/
theorem doubled_slash_repeats :
    (Scopes.ofFiles ["pkg/a.go", "pkg//b.go"]).packages = ["pkg", "pkg/"] ∧
      (Scopes.ofFiles ["pkg/a.go", "pkg//b.go"]).directories = ["pkg", "pkg/"] ∧
      SameDirectory "pkg" "pkg/" := by
  decide

end LintVerdict
