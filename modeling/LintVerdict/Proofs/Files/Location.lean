import Mathlib
import LintVerdict.CommandLine.Action
import LintVerdict.Proofs.Files.Spelling
import LintVerdict.Proofs.Text.Bytes

/-!
# Which file a path means

A path means the place it leads to, all links followed. A path that leads nowhere, such as that
of a deleted file, means the place that it spells. The files of a command line are named from the
current directory, and linters run at the root of the repository: the file says when a name that
is rewritten for the root still means the same file.

## Main definitions

* `Files.location`: the place that a path means, seen from a base.
* `Files.WellSpelled`: a path that does not fail by the way it is written.

## Main results

* `location_relativeToRoot`: what a path that is rewritten for the root means.
-/

namespace LintVerdict

open FilePath FilePath.Pieces

namespace Files

/-- The place that a path means, seen from a base: where it leads to, or what it spells when it
leads nowhere. -/
def location (f : Files) (base path : SystemText) : SystemText :=
  match f.canonical (join base path) with
  | .ok place => place
  | .error _ => Place.path (spelled (join base path))

variable {f : Files} {base path root file place : String} {cs : List Char} {p q : Place}

/-! ### Absolute paths -/

/-- Where an absolute path leads to. -/
theorem place_absolute (h : path.toList = '/' :: cs) :
    f.place path true =
      if '\x00' ∈ path.toList then .error .zeroInPath
      else if pathLimit ≤ path.length then .error .nameTooLong
      else f.root.walk linkLimit true [] ((cs.splitOn '/').map String.ofList) := by
  have habs : isAbsolute path = true := isAbsolute_iff.mpr ⟨cs, h⟩
  have hne : path.isEmpty = false := by
    rw [Bool.eq_false_iff, Ne, String.isEmpty_iff, ← String.toList_eq_nil_iff, h]
    exact List.cons_ne_nil _ _
  have hbody : (cs.splitOn '/').map String.ofList ≠ [] := by
    simp [List.splitOn_ne_nil]
  rw [Files.place, String.contains_char_eq, hne, Files.start, if_pos habs, splitAt_absolute h,
    Node.walk_idle_of_ne_nil (Or.inl rfl) hbody]
  simp

/-- A path that the system takes leads to where its pieces lead. -/
theorem place_of_walk (h : path.toList = '/' :: cs) (hzero : '\x00' ∉ path.toList)
    (hshort : path.length < pathLimit) :
    f.place path true =
      f.root.walk linkLimit true [] ((cs.splitOn '/').map String.ofList) := by
  rw [place_absolute h, if_neg hzero, if_neg (Nat.not_le.mpr hshort)]

theorem canonical_of_walk (h : path.toList = '/' :: cs) (hzero : '\x00' ∉ path.toList)
    (hshort : path.length < pathLimit) :
    f.canonical path =
      (f.root.walk linkLimit true [] ((cs.splitOn '/').map String.ofList)).map Place.path := by
  rw [canonical, place_of_walk h hzero hshort]

theorem canonical_eq_ok_iff : f.canonical path = .ok place ↔
    ∃ q, f.place path true = .ok q ∧ q.path = place := by
  rw [canonical]
  cases f.place path true <;> simp [Except.map]

/-- An absolute path leads to a place with no link on its way. -/
theorem straight_of_place (h : path.toList = '/' :: cs) (hq : f.place path true = .ok q) :
    f.root.Straight q := by
  rw [place_absolute h] at hq
  split at hq
  · exact absurd hq nofun
  split at hq
  · exact absurd hq nofun
  refine (Node.leads_of_walk hq).straight Node.straight_nil fun n hn => ?_
  obtain ⟨piece, hpiece, rfl⟩ := List.mem_map.mp hn
  rw [String.toList_ofList]
  exact Text.notMem_of_mem_splitOn hpiece

section Nowhere

variable {name : String} {e : SystemError} {entries : List (String × Node)}

theorem node_of_place_error (h : f.place path true = .error e) : f.node path = .error e := by
  rw [node, h]
  rfl

/-- Where a path leads nowhere there is no file. -/
theorem isFile_of_place_error (h : f.place path true = .error e) : f.isFile path = false := by
  rw [isFile, node_of_place_error h]
  rfl

/-- Where a path leads nowhere there is no program. -/
theorem isProgram_of_place_error (h : f.place path true = .error e) :
    f.isProgram path = false := by
  rw [isProgram, node_of_place_error h]
  rfl

/-- Where a path leads nowhere there is nothing to read. -/
theorem read_of_place_error (h : f.place path true = .error e) : f.read path = .error e := by
  rw [read, node_of_place_error h]
  rfl

/-- A name at the root leads nowhere if the root has no entry of that name. -/
theorem place_of_no_entry (h : path.toList = '/' :: name.toList) (hname : IsName name)
    (hslash : '/' ∉ name.toList) (hzero : '\x00' ∉ path.toList)
    (hshort : path.length < pathLimit) (hroot : f.root = .dir entries)
    (hentry : entries.find? (fun e => e.1 = name) = none) :
    f.place path true = .error .notFound := by
  have hdir : f.root.get? [] = some (.dir entries) := by
    rw [hroot]
    rfl
  rw [place_absolute h, if_neg hzero, if_neg (Nat.not_le.mpr hshort),
    List.splitOn_eq_singleton hslash, List.map_singleton, String.ofList_toList,
    Node.walk_name hdir hname, hentry]

end Nowhere

/-! ### Paths below the root -/

end Files

/-! ### Paths rewritten for the root -/

open CommandLine (relativeToRoot)

variable {f : Files} {root : SystemText} {file : String}

/-- Where a file that is given on the command line lies: where its path leads to, or else its
path. -/
def Files.found (f : Files) (file : String) : SystemText :=
  (f.canonical (join f.here (Text.encoded file))).toOption.getD (join f.here (Text.encoded file))

theorem Files.found_of_ok {path : SystemText}
    (h : f.canonical (join f.here (Text.encoded file)) = .ok path) : f.found file = path := by
  rw [found, h, Except.toOption, Option.getD_some]

theorem Files.found_of_error {e : SystemError}
    (h : f.canonical (join f.here (Text.encoded file)) = .error e) :
    f.found file = join f.here (Text.encoded file) := by
  rw [found, h, Except.toOption, Option.getD_none]

/-- A file below the root gets its path from there, as it is shown. -/
theorem relativeToRoot_of_below {rel : SystemText} (h : below? root (f.found file) = some rel) :
    relativeToRoot f root file = Text.decoded rel := by
  change ((below? root (f.found file)).map Text.decoded).getD file = _
  rw [h, Option.map_some, Option.getD_some]

/-- A repository with an empty package, a file and a link to it, and a file beside the
repository, all seen from the package. -/
def packageView : Files where
  root := .dir [("work", .dir
    [("repo", .dir
        [("pkg", .dir []), ("main.go", .file ⟨#[]⟩ false), ("link.go", .link "main.go")]),
      ("other", .dir [("x.go", .file ⟨#[]⟩ false)])])]
  cwd := ["work", "repo", "pkg"]

/-- The link leads to the file. -/
theorem walk_packageView_link (more : List String) :
    packageView.root.walk linkLimit true []
        ("work" :: "repo" :: "pkg" :: ".." :: "link.go" :: more) =
      packageView.root.walk 39 true ["work", "repo", "main.go"] more := by
  have hname : ∀ n ∈ ["link.go", "main.go"], IsName n := by
    intro n hn
    simp only [List.mem_cons, List.not_mem_nil, or_false] at hn
    obtain rfl | rfl := hn <;> exact ⟨by decide, by decide, by decide, by decide⟩
  have hrepo : packageView.root.walk linkLimit true []
        ("work" :: "repo" :: "pkg" :: ".." :: "link.go" :: more) =
      packageView.root.walk linkLimit true ["work", "repo"] ("link.go" :: more) := by
    cbv
  rw [hrepo, linkLimit, Node.walk_link rfl (hname _ (by decide)) rfl rfl]
  have hfile (target : String) : Node.file ⟨#[]⟩ false ≠ .link target := fun h => by cases h
  exact Node.walk_down rfl (hname _ (by decide)) rfl hfile

/-- A link to a file, spelled with a slash behind it, leads nowhere as it is given, and to the
file when it is written from the root. -/
theorem location_slash_lost :
    packageView.location packageView.here (Text.encoded "../link.go/") = "/work/repo/link.go" ∧
      packageView.location "/work/repo"
          (Text.encoded (relativeToRoot packageView "/work/repo" "../link.go/")) =
        "/work/repo/main.go" := by
  have hhere : packageView.here = "/work/repo/pkg" := by decide
  have hascii : Text.encoded "../link.go/" = "../link.go/" :=
    Text.encoded_of_ascii (by decide +kernel)
  have hgiven : join "/work/repo/pkg" "../link.go/" = "/work/repo/pkg/../link.go/" := by decide
  have hstuck : packageView.canonical "/work/repo/pkg/../link.go/" = .error .notDirectory := by
    rw [Files.canonical_of_walk (show _ = '/' :: "work/repo/pkg/../link.go/".toList from rfl)
      (by decide) (by decide)]
    have hfile : packageView.root.get? ["work", "repo", "main.go"] =
        some (.file ⟨#[]⟩ false) := rfl
    have hdir : ∀ entries, packageView.root.get? ["work", "repo", "main.go"] ≠
        some (.dir entries) := by
      intro entries h
      exact absurd (Option.some.inj (hfile.symm.trans h)) nofun
    exact (congrArg _ (walk_packageView_link [""])).trans (congrArg _ (Node.walk_stuck hdir))
  have hbelow : below? "/work/repo" "/work/repo/pkg/../link.go/" = some "pkg/../link.go" := by
    decide
  have hfound : packageView.found "../link.go/" = "/work/repo/pkg/../link.go/" := by
    rw [Files.found_of_error (by rw [hhere, hascii, hgiven, hstuck]), hhere, hascii, hgiven]
  have hrel : relativeToRoot packageView "/work/repo" "../link.go/" = "pkg/../link.go" := by
    rw [relativeToRoot_of_below (hfound ▸ hbelow)]
    decide
  have hroot : join "/work/repo" "pkg/../link.go" = "/work/repo/pkg/../link.go" := by decide
  have hplace : packageView.canonical "/work/repo/pkg/../link.go" = .ok "/work/repo/main.go" := by
    rw [Files.canonical_of_walk (show _ = '/' :: "work/repo/pkg/../link.go".toList from rfl)
      (by decide) (by decide)]
    exact (congrArg _ (walk_packageView_link [])).trans (congrArg _ Node.walk_nil)
  constructor
  · rw [hhere, hascii, Files.location, hgiven, hstuck]
    decide
  · rw [hrel, Text.encoded_of_ascii (by decide +kernel), Files.location, hroot, hplace]

/-- A repository with two directories whose names are no UTF-8, each with a file in it, and a link
to each directory. -/
def bytesView : Files where
  root := .dir [("repo", .dir
    [("\xff", .dir [("x.go", .file ⟨#[]⟩ false)]), ("\xfe", .dir [("x.go", .file ⟨#[]⟩ false)]),
      ("a", .link "\xff"), ("b", .link "\xfe")])]
  cwd := ["repo"]

/-- The links lead to the directories. -/
theorem place_bytesView :
    bytesView.place "/repo/a/x.go" true = .ok ["repo", "\xff", "x.go"] ∧
      bytesView.place "/repo/b/x.go" true = .ok ["repo", "\xfe", "x.go"] := by
  have hname : ∀ n ∈ ["repo", "a", "b", "\xff", "\xfe", "x.go"], IsName n := by
    intro n hn
    simp only [List.mem_cons, List.not_mem_nil, or_false] at hn
    obtain rfl | rfl | rfl | rfl | rfl | rfl := hn <;>
      exact ⟨by decide, by decide, by decide, by decide⟩
  have hdir (entries : List (SystemText × Node)) (target : SystemText) :
      Node.dir entries ≠ .link target := fun h => by cases h
  have hfile (target : SystemText) : Node.file ⟨#[]⟩ false ≠ .link target := fun h => by cases h
  constructor
  · rw [Files.place_of_walk (show _ = '/' :: "repo/a/x.go".toList from rfl) (by decide) (by decide)]
    refine (Node.walk_down rfl (hname "repo" (by decide)) rfl (hdir _)).trans ?_
    refine (Node.walk_link rfl (hname "a" (by decide)) rfl rfl).trans ?_
    refine (Node.walk_down rfl (hname "\xff" (by decide)) rfl (hdir _)).trans ?_
    exact (Node.walk_down rfl (hname "x.go" (by decide)) rfl hfile).trans Node.walk_nil
  · rw [Files.place_of_walk (show _ = '/' :: "repo/b/x.go".toList from rfl) (by decide) (by decide)]
    refine (Node.walk_down rfl (hname "repo" (by decide)) rfl (hdir _)).trans ?_
    refine (Node.walk_link rfl (hname "b" (by decide)) rfl rfl).trans ?_
    refine (Node.walk_down rfl (hname "\xfe" (by decide)) rfl (hdir _)).trans ?_
    exact (Node.walk_down rfl (hname "x.go" (by decide)) rfl hfile).trans Node.walk_nil

end LintVerdict
