import LintVerdict.Proofs.Scope
import LintVerdict.Proofs.Text.Split

/-!
# The directory of a listed file

An entry of a file list is trimmed, its backslashes are read as slashes, and each `./` at its start
is taken away before its directory is read off. This never changes the names that the directory
goes through. But a slash that stands behind the last `./` comes to stand first, and a path from
the current directory has become a path from the root.

## Main definitions

* `FilePath.components`: the names that a path goes through.
* `FilePath.WrittenIn`: the directory in which a file is written.
* `FilePath.SlashBehindDots`: the paths whose start is misread.

## Main results

* `FilePath.components_parent_dropDotSlash`: the directory goes through the names of the entry.
* `FilePath.head?_dropDotSlash`: which entries are read from the root.
* `directory_keeps_path_iff`: when the directory means what the entry says.
-/

namespace LintVerdict

namespace FilePath

variable {path file dir name : List Char}

/-- The names that a path goes through: its pieces without those that name nothing. -/
def components (path : List Char) : List (List Char) :=
  (Text.splitChars '/' path).filter fun piece => !Pieces.isIdle piece

/-- An entry of a file list as it is read: trimmed, a backslash being a slash. -/
def entered (file : List Char) : List Char := (Text.trimChars file).map slash

/-- The directory in which a file is written: what stands before the last slash, or a dot if no
slash is there. -/
inductive WrittenIn : List Char → List Char → Prop
  | here {file : List Char} : '/' ∉ file → WrittenIn file ['.']
  | below {dir name : List Char} : '/' ∉ name → WrittenIn (dir ++ '/' :: name) dir

/-- A path that begins with `./`, once or more, and then goes on with a slash. -/
def SlashBehindDots (path : List Char) : Prop :=
  ∃ n rest, path = (List.replicate (n + 1) ['.', '/']).flatten ++ '/' :: rest

/-! ### Where a file is written -/

/-- A file has no slash, or a last one. -/
theorem notMem_or_cut_last (file : List Char) :
    '/' ∉ file ∨ ∃ dir name, '/' ∉ name ∧ file = dir ++ '/' :: name := by
  rcases notMem_or_cut '/' file.reverse with h | ⟨name, dir, hname, hfile⟩
  · exact Or.inl (mt List.mem_reverse.mpr h)
  · refine Or.inr ⟨dir.reverse, name.reverse, mt List.mem_reverse.mp hname, ?_⟩
    rw [← List.reverse_reverse file, hfile, List.reverse_append, List.reverse_cons,
      List.append_assoc, List.singleton_append]

theorem writtenIn_beforeLastSlash (file : List Char) :
    WrittenIn file ((beforeLastSlash file).getD ['.']) := by
  rcases notMem_or_cut_last file with h | ⟨dir, name, hname, rfl⟩
  · rw [beforeLastSlash_of_notMem h]
    exact .here h
  · rw [beforeLastSlash_append dir hname]
    exact .below hname

/-- The directory begins at the root exactly if the file does. -/
theorem head?_parent (h : path ≠ []) : (parent path).head? = some '/' ↔ path.head? = some '/' := by
  rcases notMem_or_cut_last path with hpath | ⟨dir, name, hname, rfl⟩
  · rw [parent, beforeLastSlash_of_notMem hpath]
    refine iff_of_false (by simp) fun hhead => ?_
    exact hpath (List.mem_of_head? hhead)
  · rw [parent, beforeLastSlash_append dir hname]
    cases dir <;> simp

/-! ### Names that a path goes through -/

/-- A leading `./` names nothing. -/
theorem components_dot_slash (path : List Char) :
    components ('.' :: '/' :: path) = components path := by
  have hsplit : ('.' :: '/' :: path).splitOn '/' = ['.'] :: path.splitOn '/' :=
    List.splitOn_append_cons_self_of_not_mem (show '/' ∉ ['.'] by decide) path
  rw [components, components, Text.splitChars_eq_splitOn, Text.splitChars_eq_splitOn, hsplit]
  exact List.filter_cons_of_neg (by decide)

/-- The directory that is read off a file goes through the names before the last slash. -/
theorem components_parent (path : List Char) :
    components (parent path) = components ((beforeLastSlash path).getD ['.']) := by
  rw [parent]
  split
  · next h => rw [h, Option.getD_none]
  · next h =>
    rw [h, Option.getD_some]
    rfl
  · next h => rw [h, Option.getD_some]

/-- A leading `./` changes nothing about the names before the last slash. -/
theorem components_beforeLastSlash_dot_slash (path : List Char) :
    components ((beforeLastSlash ('.' :: '/' :: path)).getD ['.']) =
      components ((beforeLastSlash path).getD ['.']) := by
  rcases notMem_or_cut_last path with h | ⟨dir, name, hname, rfl⟩
  · rw [show '.' :: '/' :: path = ['.'] ++ '/' :: path from rfl, beforeLastSlash_append _ h,
      beforeLastSlash_of_notMem h, Option.getD_some, Option.getD_none]
  · rw [show '.' :: '/' :: (dir ++ '/' :: name) = ('.' :: '/' :: dir) ++ '/' :: name from rfl,
      beforeLastSlash_append _ hname, beforeLastSlash_append _ hname, Option.getD_some,
      Option.getD_some, components_dot_slash]

/-- **The directory goes through the names of the entry**, whatever is taken away at the start. -/
theorem components_parent_dropDotSlash (path : List Char) :
    components (parent (dropDotSlash path)) =
      components ((beforeLastSlash path).getD ['.']) := by
  induction path using dropDotSlash.induct with
  | case1 path ih => rw [dropDotSlash, ih, components_beforeLastSlash_dot_slash]
  | case2 path hpath => rw [dropDotSlash.eq_2 path hpath, components_parent]

/-! ### The start of a path -/

/-- What stands behind each leading `./` is what is left. -/
theorem dropDotSlash_append (n : Nat) (path : List Char) :
    dropDotSlash ((List.replicate n ['.', '/']).flatten ++ path) = dropDotSlash path := by
  induction n with
  | zero => rfl
  | succ n ih =>
      rw [List.replicate_succ, List.flatten_cons, List.append_assoc]
      exact ih

/-- A path is what is left of it behind some `./`. -/
theorem exists_dotSlashes (path : List Char) :
    ∃ n, path = (List.replicate n ['.', '/']).flatten ++ dropDotSlash path := by
  induction path using dropDotSlash.induct with
  | case1 path ih =>
      obtain ⟨n, hn⟩ := ih
      refine ⟨n + 1, ?_⟩
      rw [dropDotSlash, List.replicate_succ, List.flatten_cons, List.append_assoc, ← hn]
      rfl
  | case2 path hpath => exact ⟨0, (dropDotSlash.eq_2 path hpath).symm⟩

theorem SlashBehindDots.head?_eq (h : SlashBehindDots path) : path.head? = some '.' := by
  obtain ⟨n, rest, rfl⟩ := h
  rw [List.replicate_succ]
  rfl

/-- **Which entries are read from the root**: those that say so, and those with a slash behind the
leading `./`. -/
theorem head?_dropDotSlash (path : List Char) :
    (dropDotSlash path).head? = some '/' ↔ path.head? = some '/' ∨ SlashBehindDots path := by
  constructor
  · intro h
    obtain ⟨n, hn⟩ := exists_dotSlashes path
    obtain ⟨rest, hrest⟩ := List.head?_eq_some_iff.mp h
    rw [hrest] at hn
    cases n with
    | zero => exact Or.inl (by rw [hn]; rfl)
    | succ n => exact Or.inr ⟨n, rest, hn⟩
  · rintro (h | ⟨n, rest, rfl⟩)
    · obtain ⟨rest, rfl⟩ := List.head?_eq_some_iff.mp h
      rfl
    · rw [dropDotSlash_append]
      rfl

theorem normalize_eq_some_iff {cs : List Char} :
    normalize file = some cs ↔ cs ≠ [] ∧ dropDotSlash (entered file) = cs := by
  rw [normalize, ← entered]
  split
  · next h => simp [h, eq_comm]
  · next h hne =>
    constructor
    · rintro ⟨⟩
      exact ⟨fun hnil => hne (hnil ▸ rfl), rfl⟩
    · rintro ⟨-, rfl⟩
      rfl

end FilePath

/-! ### Scopes -/

open FilePath

/-- A file that is not blank has its directory among the scopes. -/
theorem Scopes.dirOf_mem {files : List String} {file : String} (hfile : file ∈ files)
    {cs : List Char} (h : normalize file.toList = some cs) :
    Scopes.dirOf cs ∈ (Scopes.ofFiles files).directories := by
  rw [Scopes.ofFiles_eq, List.mem_eraseDups, Scopes.normalized]
  exact List.mem_map_of_mem (List.mem_filterMap.mpr ⟨file, hfile, h⟩)

/-- **When a scope keeps the meaning of its entry.** An entry that is not blank contributes one
directory, which goes through the names that the entry has before its last slash. It begins at the
root exactly if the entry does, unless a slash stands behind the leading `./` of the entry. -/
theorem directory_keeps_path_iff {files : List String} {file : String} (hfile : file ∈ files)
    (hblank : normalize file.toList ≠ none) :
    ∃ dir front, (Scopes.ofFiles [file]).directories = [dir] ∧
      dir ∈ (Scopes.ofFiles files).directories ∧
      WrittenIn (entered file.toList) front ∧ components dir.toList = components front ∧
      ((isAbsolute dir = true ↔ (entered file.toList).head? = some '/') ↔
        ¬ SlashBehindDots (entered file.toList)) := by
  obtain ⟨cs, hcs⟩ := Option.ne_none_iff_exists'.mp hblank
  obtain ⟨hne, hdrop⟩ := normalize_eq_some_iff.mp hcs
  refine ⟨Scopes.dirOf cs, _, ?_, Scopes.dirOf_mem hfile hcs, writtenIn_beforeLastSlash _, ?_, ?_⟩
  · have hone : Scopes.normalized [file] = [cs] := List.filterMap_cons_some hcs
    rw [Scopes.ofFiles_eq, hone]
    rfl
  · rw [Scopes.dirOf, String.toList_ofList, ← hdrop, components_parent_dropDotSlash]
  · have habsolute : isAbsolute (Scopes.dirOf cs) = true ↔
        (entered file.toList).head? = some '/' ∨ SlashBehindDots (entered file.toList) := by
      rw [isAbsolute, decide_eq_true_iff, Scopes.dirOf, String.toList_ofList, head?_parent hne,
        ← hdrop, head?_dropDotSlash]
    rw [habsolute]
    constructor
    · intro hiff hdots
      have hdot := hdots.head?_eq
      rw [hiff.mp (Or.inr hdots)] at hdot
      exact absurd hdot (by decide)
    · exact fun hdots => or_iff_left hdots

/-- An entry with backslashes, and a blank before it. -/
theorem directory_keeps_path_backslashes :
    " .\\pkg\\a.go" ∈ ["main.go", " .\\pkg\\a.go"] ∧
      normalize " .\\pkg\\a.go".toList ≠ none ∧
      (Scopes.ofFiles [" .\\pkg\\a.go"]).directories = ["pkg"] ∧
      (Scopes.ofFiles ["main.go", " .\\pkg\\a.go"]).directories = [".", "pkg"] ∧
      ∃ front, WrittenIn "./pkg/a.go".toList front ∧
        components "pkg".toList = components front := by
  have hfile : " .\\pkg\\a.go" ∈ ["main.go", " .\\pkg\\a.go"] := by decide
  have hblank : normalize " .\\pkg\\a.go".toList ≠ none := by decide
  have hone : (Scopes.ofFiles [" .\\pkg\\a.go"]).directories = ["pkg"] := by decide
  have hentered : entered " .\\pkg\\a.go".toList = "./pkg/a.go".toList := by decide
  obtain ⟨dir, front, hdir, -, hfront, hnames, -⟩ := directory_keeps_path_iff hfile hblank
  obtain rfl := List.singleton_inj.mp (hone.symm.trans hdir)
  exact ⟨hfile, hblank, hone, by decide, front, hentered ▸ hfront, hnames⟩

/-- A slash behind a leading `./` turns a path from the current directory into one from the
root. -/
theorem slash_behind_dot_misread :
    (Scopes.ofFiles [".//pkg/a.go"]).directories = ["/pkg"] ∧
      isAbsolute "/pkg" = true ∧ (entered ".//pkg/a.go".toList).head? ≠ some '/' := by
  decide

end LintVerdict
