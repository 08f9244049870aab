import LintVerdict.Proofs.Files.Growth
import LintVerdict.Proofs.Files.Join
import LintVerdict.Proofs.Files.Location
import LintVerdict.Proofs.Ignore.Walk
import LintVerdict.Proofs.Text.ByteOrder

/-!
# The files below a directory

The files below a directory are listed by their paths, which begin with the directory as it was
given. Two files have different paths, since a name has no slash in it. The paths are shown as
texts, in which what is not UTF-8 is lost. So each file is listed once, but two files may be listed
by the same text, unless all paths are UTF-8.

A walk that cannot read a directory lists nothing, and neither does one with a fault in the rules
above the directory. A path that stands for the standard input has no files below it, even if it is
the name of a directory.

## Main definitions

* `Spellable`: names that stand below a directory.
* `Walk.spelled`: the path of a place below the directory of a walk.
* `Listing`: what a walk through a directory tells.
* `Files.RuleFree`: a directory without rules.

## Main results

* `foldl_join`: the path of a place below a directory.
* `Walk.list_listing`: what a walk tells.
* `Listing.exact`: the files are listed by their paths, each once, if these are UTF-8.
* `isStandardInput_iff`: the paths that stand for the standard input.
* `Walk.skips_of_bare`: without rules, what is hidden is skipped and nothing else is.
* `files_below_directory`: what is told of a directory.
-/

namespace LintVerdict

open FilePath

variable {skip : Place → Bool → Bool} {unread? : Place → Option SystemError} {below place : Place}
  {entries : List (SystemText × Node)}

/-! ### The paths of places -/

/-- Names that stand below a directory: there is one at least, and none is empty or has a slash in
it. -/
structure Spellable (below : Place) : Prop where
  ne_nil : below ≠ []
  ne_empty : ∀ name ∈ below, name ≠ ""
  noSlash : ∀ name ∈ below, '/' ∉ name.toList

/-- The names below a base stand behind it with slashes between them. -/
theorem foldl_join (base : SystemText) (h : Spellable below) :
    below.foldl join base = lead base ++ Text.joinWith "/" below := by
  obtain ⟨hne, hempty, hslash⟩ := h
  induction below generalizing base with
  | nil => exact absurd rfl hne
  | cons name rest ih =>
      rw [List.forall_mem_cons] at hempty hslash
      have hrelative : isAbsolute name = false := by
        rw [Bool.eq_false_iff, Ne, isAbsolute_iff]
        rintro ⟨cs, hcs⟩
        exact hslash.1 (hcs ▸ List.mem_cons_self)
      have hjoin : join base name = lead base ++ name := join_of_relative hrelative
      rw [List.foldl_cons]
      cases rest with
      | nil => rw [List.foldl_nil, hjoin, Text.joinWith, String.intercalate_singleton]
      | cons other rest =>
          have hlead : lead (join base name) = join base name ++ "/" := by
            rw [lead_join hempty.1, if_neg fun hlast => hslash.1 (List.mem_of_getLast? hlast)]
          rw [ih (join base name) (List.cons_ne_nil _ _) hempty.2 hslash.2, hlead, hjoin,
            Text.joinWith, Text.joinWith, String.intercalate_cons_cons]
          simp only [String.append_assoc]

/-- Two places with the same path are the same. -/
theorem eq_of_foldl_join_eq {base : SystemText} {other : Place} (h : Spellable below)
    (h' : Spellable other) (heq : below.foldl join base = other.foldl join base) :
    below = other := by
  rw [foldl_join base h, foldl_join base h', String.append_right_inj] at heq
  rw [← Text.splitAt_joinWith h.ne_nil h.noSlash, ← Text.splitAt_joinWith h'.ne_nil h'.noSlash]
  exact congrArg (Text.splitAt '/') heq

/-! ### The listing -/

/-- The path of a place below the directory of a walk, spelled from the directory as it was
given. -/
def Walk.spelled (w : Walk) (below : Place) : SystemText := lead w.dir ++ Text.joinWith "/" below

/-- What a walk through a directory tells. -/
inductive Listing (w : Walk) (skip : Place → Bool → Bool) (unread? : Place → Option SystemError)
    (n : Node) : Except ScopeError (List String) → Prop
  /-- A directory that is reached cannot be read. -/
  | unread {below : Place} {entries : List (SystemText × Node)} {e : SystemError} :
      n.Reaches skip below (.dir entries) → unread? below = some e →
      Listing w skip unread? n (.error (.unread w.dir (w.path below) e))
  /-- All directories that are reached can be read: the texts are the paths of the files that are
  reached, one for each file, as they are shown and in the order of their bytes. -/
  | listed {reached : List Place} {paths : List String} :
      (∀ below entries, n.Reaches skip below (.dir entries) → unread? below = none) →
      reached.Nodup →
      (∀ below, below ∈ reached ↔ ∃ content executable,
        n.Reaches skip below (.file content executable)) →
      paths.Perm (reached.map fun below => Text.decoded (w.spelled below)) →
      paths.Pairwise (fun a b => Text.utf8 a ≤ Text.utf8 b) → Listing w skip unread? n (.ok paths)

/-- The place of a file in a directory has a path. -/
theorem Node.Reaches.spellable {content : ByteArray} {executable : Bool}
    (h : (Node.dir entries).Reaches skip below (.file content executable))
    (hnamed : (Node.dir entries).FullyNamed) : Spellable below where
  ne_nil := by
    rintro rfl
    cases h.1
  ne_empty := fun name hname => (hnamed.names h.1 name hname).1
  noSlash := fun name hname => (hnamed.names h.1 name hname).2

/-- **What a walk tells.** -/
theorem Walk.list_listing (w : Walk) (skip : Place → Bool → Bool)
    (unread? : Place → Option SystemError) (hnamed : (Node.dir entries).FullyNamed) :
    Listing w skip unread? (.dir entries) (w.list skip unread? (.dir entries)) := by
  have hcollected :
      Collected unread? (Node.Reaches skip (.dir entries))
        ((Node.dir entries).filesBelow skip unread? []) :=
    (Node.filesBelow_collected skip unread? [] _ hnamed.toWellNamed).congr
      fun _ _ => Node.meets_iff_reaches hnamed.toWellNamed
  rw [list]
  cases hfound : (Node.dir entries).filesBelow skip unread? [] with
  | error fault =>
      rw [hfound] at hcollected
      cases hcollected with
      | unread hreached he => exact .unread hreached he
  | ok places =>
      rw [hfound] at hcollected
      obtain _ | ⟨hread, hmem, hnodup⟩ := hcollected
      refine .listed hread hnodup hmem ?_ (Text.pairwise_le_mergeSort _)
      have hshown : places.map (fun below => Text.decoded (w.path below)) =
          places.map fun below => Text.decoded (w.spelled below) := by
        refine List.map_congr_left fun below hbelow => ?_
        obtain ⟨content, executable, hreached⟩ := (hmem below).mp hbelow
        rw [path, foldl_join w.dir (hreached.spellable hnamed), spelled]
      rw [← hshown]
      exact List.mergeSort_perm ..

/-- The paths of the files that a walk reaches are UTF-8. -/
def Walk.SpelledInUtf8 (w : Walk) (skip : Place → Bool → Bool) (n : Node) : Prop :=
  ∀ below content executable, n.Reaches skip below (.file content executable) →
    ∃ path, w.spelled below = Text.encoded path

/-- The texts are the paths of the files that a walk reaches, each once and in the order of their
bytes. -/
structure Walk.ListsExactly (w : Walk) (skip : Place → Bool → Bool) (n : Node)
    (paths : List String) : Prop where
  ascending : paths.Pairwise fun a b => Text.utf8 a < Text.utf8 b
  mem_iff : ∀ path, path ∈ paths ↔ ∃ below content executable,
    n.Reaches skip below (.file content executable) ∧ Text.encoded path = w.spelled below

/-- **Files whose paths are UTF-8 are listed by their paths**, each once. -/
theorem Listing.exact {w : Walk} {paths : List String} (hnamed : (Node.dir entries).FullyNamed)
    (h : Listing w skip unread? (.dir entries) (.ok paths))
    (hutf8 : w.SpelledInUtf8 skip (.dir entries)) : w.ListsExactly skip (.dir entries) paths := by
  obtain _ | ⟨-, hnodup, hmem, hperm, hsorted⟩ := h
  rename_i reached
  have hspelled {below : Place} (hbelow : below ∈ reached) :
      Spellable below ∧ ∃ path, w.spelled below = Text.encoded path := by
    obtain ⟨content, executable, hreached⟩ := (hmem below).mp hbelow
    exact ⟨hreached.spellable hnamed, hutf8 below content executable hreached⟩
  constructor
  · refine Text.pairwise_lt_of_nodup hsorted (hperm.nodup_iff.mpr (hnodup.map_on ?_))
    intro below hbelow other hother heq
    obtain ⟨hplace, path, hpath⟩ := hspelled hbelow
    obtain ⟨hplace', path', hpath'⟩ := hspelled hother
    rw [hpath, hpath', Text.decoded_encoded, Text.decoded_encoded] at heq
    have hjoined : below.foldl join w.dir = other.foldl join w.dir := by
      rw [foldl_join w.dir hplace, foldl_join w.dir hplace']
      exact hpath.trans (heq ▸ hpath'.symm)
    exact eq_of_foldl_join_eq hplace hplace' hjoined
  · intro path
    rw [hperm.mem_iff, List.mem_map]
    constructor
    · rintro ⟨below, hbelow, rfl⟩
      obtain ⟨content, executable, hreached⟩ := (hmem below).mp hbelow
      obtain ⟨-, path, hpath⟩ := hspelled hbelow
      exact ⟨below, content, executable, hreached, by rw [hpath, Text.decoded_encoded]⟩
    · rintro ⟨below, content, executable, hreached, hpath⟩
      exact ⟨below, (hmem below).mpr ⟨content, executable, hreached⟩,
        by rw [← hpath, Text.decoded_encoded]⟩

/-! ### The directory that is given -/

variable {files : Files} {global : RuleSet} {dir : SystemText}

/-- A hyphen is left where pieces that name nothing are taken away from the end if only such pieces
stand behind it. -/
theorem trimEnd_eq_hyphen_iff {body : List (List Char)} :
    (Pieces.trimEnd ⟨.plain, body⟩).body = [['-']] ↔
      ∃ rest, body = ['-'] :: rest ∧ ∀ piece ∈ rest, Pieces.isIdle piece = true := by
  rw [Pieces.trimEnd]
  dsimp only
  constructor
  · intro h
    refine ⟨(body.reverse.takeWhile Pieces.isIdle).reverse, ?_,
      fun piece hpiece => List.mem_takeWhile_imp (List.mem_reverse.mp hpiece)⟩
    rw [← List.singleton_append, ← h, ← List.reverse_append, List.takeWhile_append_dropWhile,
      List.reverse_reverse]
  · rintro ⟨rest, rfl, hrest⟩
    rw [List.reverse_cons, List.dropWhile_append_of_pos fun piece hpiece =>
      hrest piece (List.mem_reverse.mp hpiece)]
    rfl

/-- **The standard input** is written as a hyphen. Pieces that name nothing may stand behind it. -/
theorem isStandardInput_iff :
    isStandardInput dir = true ↔
      ∃ pieces, Text.splitAt '/' dir = "-" :: pieces ∧ ∀ piece ∈ pieces, IsIdle piece := by
  have hchars : (∃ pieces, Text.splitAt '/' dir = "-" :: pieces ∧ ∀ piece ∈ pieces, IsIdle piece) ↔
      ∃ rest, Text.splitChars '/' dir.toList = ['-'] :: rest ∧
        ∀ piece ∈ rest, Pieces.isIdle piece = true := by
    rw [Text.splitAt]
    constructor
    · rintro ⟨pieces, hsplit, hidle⟩
      obtain ⟨piece, rest, hcs, hpiece, rfl⟩ := List.map_eq_cons_iff.mp hsplit
      obtain rfl : piece = ['-'] := String.ofList_inj.mp hpiece
      exact ⟨rest, hcs, fun p hp => Pieces.isIdle_iff.mpr (hidle _ (List.mem_map_of_mem hp))⟩
    · rintro ⟨rest, hcs, hidle⟩
      refine ⟨rest.map String.ofList, by rw [hcs]; rfl, List.forall_mem_map.mpr fun p hp => ?_⟩
      exact Pieces.isIdle_iff.mp (hidle p hp)
  rw [hchars, isStandardInput, Pieces.ofPath]
  split
  · next p rest hcs =>
    rw [hcs]
    exact iff_of_false (by simp [Pieces.trimEnd]) (by simp)
  · next rest hcs =>
    rw [hcs]
    exact iff_of_false (by simp [Pieces.trimEnd]) (by simp)
  · rw [← trimEnd_eq_hyphen_iff]
    simp [Pieces.trimEnd]

/-- The walk through a directory is called by the path that was given, and asks the rules of the
user. -/
theorem dir_of_start {w : Walk} (h : Walk.start files global dir = .ok w) :
    w.dir = dir ∧ w.global = global := by
  rw [Walk.start] at h
  split at h
  · obtain rfl := Except.ok.inj h
    exact ⟨rfl, rfl⟩
  · dsimp only at h
    split at h
    · obtain rfl := Except.ok.inj h
      exact ⟨rfl, rfl⟩
    · cases h

/-- A path that leads to a directory leads to a directory or a link, the last link not followed. -/
theorem exists_place_unfollowed (hdir : files.node dir = .ok (.dir entries)) :
    ∃ place, files.place dir false = .ok place ∧
      ∀ content executable, files.root.get? place ≠ some (.file content executable) := by
  obtain ⟨place, hplace, hget⟩ := Files.node_eq_ok_iff.mp hdir
  rw [Files.place] at hplace ⊢
  split_ifs at hplace with hzero hempty hlong
  rw [if_neg hzero, if_neg hempty, if_neg hlong]
  obtain heq | ⟨other, target, hother, hlink⟩ :=
    files.root.walk_unfollowed linkLimit (files.start dir) (Text.splitAt '/' dir)
  · exact ⟨place, heq.trans hplace, by simp [hget]⟩
  · exact ⟨other, hother, by simp [hlink]⟩

/-- A directory that is not read as the standard input is walked through. -/
theorem listDir_of_dir (hstdin : isStandardInput dir = false)
    (hdir : files.node dir = .ok (.dir entries)) :
    listDir files global dir =
      match Walk.start files global dir with
      | .error reason => .error (.walk (Text.decoded dir) reason)
      | .ok w => w.list (w.skips files) w.unread? (.dir entries) := by
  obtain ⟨place, hplace, hfile⟩ := exists_place_unfollowed hdir
  rw [listDir, if_neg (by simp [hstdin]), hplace, hdir]
  dsimp only
  cases hget : files.root.get? place with
  | none => rfl
  | some n =>
      cases n with
      | file content executable => exact absurd hget (hfile content executable)
      | link target => rfl
      | dir _ => rfl

/-! ### Trees without rules -/

/-- Rules that say nothing. -/
def IgnoreLevel.Bare (l : IgnoreLevel) : Prop :=
  l.general.rules = [] ∧ l.shared.rules = [] ∧ l.own.rules = []

/-- A directory that has no file of rules. -/
structure Files.RuleFree (files : Files) (dir : SystemText) : Prop where
  general : ∃ e, files.read (join dir ".ignore") = .error e
  shared : ∃ e, files.read (join dir ".gitignore") = .error e
  own : ∃ e, files.read (join (join dir ".git") "info/exclude") = .error e

/-- A directory has no file of rules if it has no entry of their names. -/
theorem Files.ruleFree_of_entries (hplace : files.place dir true = .ok place)
    (hget : files.root.get? place = some (.dir entries))
    (hnone : ∀ name ∈ [".ignore", ".gitignore", ".git"], name ∉ entries.map Prod.fst) :
    files.RuleFree dir := by
  have hmissing {rel name : SystemText} {rest : List SystemText} (hrel : isAbsolute rel = false)
      (hnames : Text.splitAt '/' rel = name :: rest)
      (hmem : name ∈ [".ignore", ".gitignore", ".git"]) :
      ∃ e, files.read (join dir rel) = .error e := by
    have hname : IsName name := by
      simp only [List.mem_cons, List.not_mem_nil, or_false] at hmem
      obtain rfl | rfl | rfl := hmem <;> exact ⟨by decide, by decide, by decide, by decide⟩
    obtain ⟨e, he⟩ :=
      Files.place_join_of_no_entry hplace hget hrel hnames hname (hnone name hmem)
    exact ⟨e, Files.read_of_place_error he⟩
  have hown : join (join dir ".git") "info/exclude" = join dir ".git/info/exclude" := by
    have hgit : lead (join dir ".git") = join dir ".git" ++ "/" :=
      (lead_join (by decide)).trans (if_neg (by decide))
    rw [join_of_relative (by decide), hgit, String.append_assoc]
    exact (join_append (by decide)).symm
  exact ⟨hmissing rfl rfl (by decide), hmissing rfl rfl (by decide),
    hown ▸ hmissing rfl rfl (by decide)⟩

/-- Where there is no file there are no rules. -/
theorem RuleSet.load_of_error {path : SystemText} (h : ∃ e, files.read path = .error e)
    (root : SystemText) :
    RuleSet.load files root path =
      (⟨String.ofList (dropStart ['.', '/'] root.toList), []⟩, []) := by
  obtain ⟨e, he⟩ := h
  rw [RuleSet.load, he]

theorem Files.RuleFree.load (h : files.RuleFree dir) :
    (IgnoreLevel.load files dir).1.Bare ∧ (IgnoreLevel.load files dir).2 = [] := by
  rw [IgnoreLevel.load, RuleSet.load_of_error h.general, RuleSet.load_of_error h.shared,
    RuleSet.load_of_error h.own]
  exact ⟨⟨rfl, rfl, rfl⟩, rfl⟩

theorem IgnoreLevel.verdict_of_bare {levels : List SeenFrom} (h : ∀ l ∈ levels, l.level.Bare)
    (isDir : Bool) : IgnoreLevel.verdict levels isDir = .silent := by
  have hsilent {rules : IgnoreLevel → RuleSet} (hrules : ∀ l ∈ levels, (rules l.level).rules = []) :
      Verdict.first (levels.map fun l => (rules l.level).verdict l.path isDir) = .silent := by
    induction levels with
    | nil => rfl
    | cons l levels ih =>
        rw [List.forall_mem_cons] at h hrules
        have hl : (rules l.level).verdict l.path isDir = .silent := by
          rw [RuleSet.verdict, hrules.1]
          rfl
        rw [List.map_cons, hl]
        exact ih h.2 hrules.2
  rw [IgnoreLevel.verdict]
  dsimp only
  rw [hsilent fun l hl => (h l hl).1, hsilent fun l hl => (h l hl).2.1,
    hsilent fun l hl => (h l hl).2.2]
  rfl

/-- **Without rules**, what is hidden is skipped and nothing else is. -/
theorem Walk.skips_of_bare {w : Walk} (habove : ∀ l ∈ w.above, l.Bare)
    (hglobal : w.global.rules = [])
    (hnear : ∀ i < below.length, files.RuleFree (w.path (below.take i))) (isDir : Bool) :
    w.skips files below isDir = below.getLast?.any isHidden := by
  have hsilent : IgnoreLevel.verdict
      (((w.levels files below).map fun l => ⟨l, w.path below⟩) ++
        w.above.map fun l => ⟨l, w.absolutePath (w.path below)⟩) isDir = .silent := by
    refine IgnoreLevel.verdict_of_bare (fun l hl => ?_) isDir
    obtain hl | hl := List.mem_append.mp hl
    · obtain ⟨level, hlevel, rfl⟩ := List.mem_map.mp hl
      rw [levels, List.mem_reverse, List.mem_map] at hlevel
      obtain ⟨i, hi, rfl⟩ := hlevel
      exact (hnear i (List.mem_range.mp hi)).load.1
    · obtain ⟨level, hlevel, rfl⟩ := List.mem_map.mp hl
      exact habove level hlevel
  have hglobally : w.global.verdict (w.path below) isDir = .silent := by
    rw [RuleSet.verdict, hglobal]
    rfl
  rw [skips, hsilent, hglobally]
  rfl

/-- A walk starts where there are no rules above the directory, and it knows none. -/
theorem Walk.exists_start_of_ruleFree {absolute : SystemText} (global : RuleSet)
    (habsolute : files.canonical dir = .ok absolute)
    (h : ∀ above ∈ directoriesAbove absolute.length absolute, files.RuleFree above) :
    ∃ w, Walk.start files global dir = .ok w ∧ ∀ l ∈ w.above, l.Bare := by
  let loaded := (directoriesAbove absolute.length absolute).map (IgnoreLevel.load files)
  have hfaults : (loaded.map (·.2)).reverse.flatten = [] := by
    rw [List.flatten_eq_nil_iff]
    intro faults hfaults
    obtain ⟨level, hlevel, rfl⟩ := List.mem_map.mp (List.mem_reverse.mp hfaults)
    obtain ⟨above, habove, rfl⟩ := List.mem_map.mp hlevel
    exact (h above habove).load.2
  refine ⟨⟨dir, absolute, loaded.map (·.1), global⟩, ?_, fun l hl => ?_⟩
  · rw [Walk.start, habsolute]
    dsimp only
    rw [hfaults]
  · obtain ⟨level, hlevel, rfl⟩ := List.mem_map.mp hl
    obtain ⟨above, habove, rfl⟩ := List.mem_map.mp hlevel
    exact (h above habove).load.1

/-! ### What is told of a directory -/

/-- **The files below a directory.** Whatever is skipped and whatever cannot be read, a walk lists
the files that no skipped place is on the way to, one text for each and in the order of their bytes,
or it tells of a directory that cannot be read and lists nothing. A text is the path of its file as
it is shown: where all paths are UTF-8 the texts are the paths, and no two are equal. The files
below a directory are listed by such a walk, unless what is wrong in the rules above it is told. A
path that stands for the standard input is set apart. -/
theorem files_below_directory (hnamed : files.root.FullyNamed)
    (hdir : files.node dir = .ok (.dir entries)) (global : RuleSet) :
    (∀ w skip unread?,
        Listing w skip unread? (.dir entries) (w.list skip unread? (.dir entries))) ∧
      (∀ w skip unread? paths, Listing w skip unread? (.dir entries) (.ok paths) →
        w.SpelledInUtf8 skip (.dir entries) → w.ListsExactly skip (.dir entries) paths) ∧
      (isStandardInput dir = false →
        (∀ reason, Walk.start files global dir = .error reason →
            listDir files global dir = .error (.walk (Text.decoded dir) reason)) ∧
          ∀ w, Walk.start files global dir = .ok w → w.dir = dir ∧ w.global = global ∧
            Listing w (w.skips files) w.unread? (.dir entries) (listDir files global dir)) := by
  obtain ⟨place, -, hget⟩ := Files.node_eq_ok_iff.mp hdir
  have hentries : (Node.dir entries).FullyNamed := hnamed.of_get? hget
  refine ⟨fun w skip unread? => w.list_listing skip unread? hentries,
    fun w skip unread? paths h hutf8 => h.exact hentries hutf8,
    fun hstdin => ⟨fun reason hstart => ?_, fun w hstart => ?_⟩⟩
  · rw [listDir_of_dir hstdin hdir, hstart]
  · obtain ⟨hw, hglobal⟩ := dir_of_start hstart
    refine ⟨hw, hglobal, ?_⟩
    rw [listDir_of_dir hstdin hdir, hstart]
    exact w.list_listing _ _ hentries

/-! ### A directory in the root -/

/-- A user without ignore rules. -/
def noRules : RuleSet := ⟨"/", []⟩

/-- The files right in a directory of the root are reached, if there are no rules and they are not
hidden. -/
theorem exists_reaches_file (hroot : files.RuleFree "/") (hplace : files.place dir true = .ok [dir])
    (hget : files.root.get? [dir] = some (.dir entries))
    (habove : directoriesAbove (Place.path [dir]).length (Place.path [dir]) = ["/"])
    (hnone : ∀ name ∈ [".ignore", ".gitignore", ".git"], name ∉ entries.map Prod.fst) :
    files.node dir = .ok (.dir entries) ∧ ∃ w, Walk.start files noRules dir = .ok w ∧ w.dir = dir ∧
      ∀ name content executable, isHidden name = false →
        (Node.dir entries).get? [name] = some (.file content executable) →
        (Node.dir entries).Reaches (w.skips files) [name] (.file content executable) := by
  have hfree : files.RuleFree dir := Files.ruleFree_of_entries hplace hget hnone
  have hcanonical : files.canonical dir = .ok (Place.path [dir]) := by
    rw [Files.canonical, hplace]
    rfl
  refine ⟨Files.node_eq_ok_iff.mpr ⟨_, hplace, hget⟩, ?_⟩
  obtain ⟨w, hstart, hbare⟩ := Walk.exists_start_of_ruleFree noRules hcanonical (by
    rw [habove]
    exact List.forall_mem_singleton.mpr hroot)
  obtain ⟨hw, hglobal⟩ := dir_of_start hstart
  refine ⟨w, hstart, hw, fun name content executable hshown hfile =>
    ⟨hfile, fun way hne hway => ?_⟩⟩
  obtain rfl : way = [name] := by
    obtain ⟨other, way, rfl⟩ := List.exists_cons_of_ne_nil hne
    obtain ⟨rfl, hmore⟩ := List.cons_prefix_cons.mp hway
    rw [List.prefix_nil.mp hmore]
  rw [List.nil_append, Walk.skips_of_bare hbare (by rw [hglobal]; rfl) fun i hi => ?_]
  · exact hshown
  · obtain rfl : i = 0 := by simpa using hi
    have hpath : w.path [] = dir := hw
    exact hpath.symm ▸ hfree

/-- There is no directory in a directory of files. -/
theorem eq_nil_or_singleton_of_reaches {m : Node} (hfiles : ∀ e ∈ entries, e.2.isDir = false)
    (h : (Node.dir entries).Reaches skip below m) :
    below = [] ∨ ∃ name, below = [name] ∧ (name, m) ∈ entries := by
  cases below with
  | nil => exact Or.inl rfl
  | cons name rest =>
      obtain ⟨k, hmem, hget⟩ := Node.exists_mem_of_get?_cons h.1
      have hk : k.isDir = false := hfiles _ hmem
      rw [Node.isDir_of_get? hget, Bool.or_eq_false_iff] at hk
      obtain rfl : rest = [] := by simpa using hk.1
      obtain rfl : k = m := Option.some.inj hget
      exact Or.inr ⟨name, rfl, hmem⟩

/-- A directory of files that can be read is listed. -/
theorem Listing.exists_ok {w : Walk} {told : Except ScopeError (List String)}
    (h : Listing w skip w.unread? (.dir entries) told)
    (hfiles : ∀ e ∈ entries, e.2.isDir = false) (hshort : w.dir.length < pathLimit) :
    ∃ paths, told = .ok paths := by
  have hread : w.unread? [] = none := by
    rw [Walk.unread?, Walk.path, List.foldl_nil, if_neg (Nat.not_le.mpr hshort)]
  obtain ⟨hunread, he⟩ | _ := h
  · obtain rfl | ⟨name, rfl, hmem⟩ := eq_nil_or_singleton_of_reaches hfiles hunread
    · cases hread.symm.trans he
    · cases hfiles _ hmem
  · exact ⟨_, rfl⟩

/-! ### Two directories -/

/-- A directory with a Go file. -/
def goDir : Node := .dir [("a.go", .file ⟨#[]⟩ false)]

/-- Two directories with a Go file, one of which is called by a hyphen. -/
def hyphenFiles : Files := ⟨.dir [("-", goDir), ("pkg", goDir)], []⟩

theorem fullyNamed_hyphenFiles : hyphenFiles.root.FullyNamed := by
  have hgo : goDir.FullyNamed := by
    refine Node.fullyNamed_dir (by decide) (by decide) (List.forall_mem_singleton.mpr ?_)
    exact Node.fullyNamed_of_isDir rfl
  refine Node.fullyNamed_dir (by decide) (by decide) ?_
  exact List.forall_mem_cons.mpr ⟨hgo, List.forall_mem_singleton.mpr hgo⟩

/-- The Go file of either directory is reached. -/
theorem exists_reaches_hyphenFiles (h : dir ∈ ["-", "pkg"]) :
    hyphenFiles.node dir = .ok goDir ∧ ∃ w, Walk.start hyphenFiles noRules dir = .ok w ∧
      w.dir = dir ∧ goDir.Reaches (w.skips hyphenFiles) ["a.go"] (.file ⟨#[]⟩ false) := by
  have hfacts : hyphenFiles.place dir true = .ok [dir] ∧
      hyphenFiles.root.get? [dir] = some goDir ∧
      directoriesAbove (Place.path [dir]).length (Place.path [dir]) = ["/"] := by
    simp only [List.mem_cons, List.not_mem_nil, or_false] at h
    obtain rfl | rfl := h
    · exact ⟨by cbv, rfl, by decide⟩
    · exact ⟨by cbv, rfl, by decide⟩
  obtain ⟨hplace, hget, habove⟩ := hfacts
  have htop : hyphenFiles.place "/" true = .ok [] := by cbv
  have hroot : hyphenFiles.RuleFree "/" := Files.ruleFree_of_entries htop rfl (by decide)
  obtain ⟨hdir, w, hstart, hw, hreached⟩ :=
    exists_reaches_file hroot hplace hget habove (by decide)
  exact ⟨hdir, w, hstart, hw, hreached _ _ _ (by decide) rfl⟩

/-- The Go file is all that is reached in such a directory. -/
theorem eq_of_reaches_goDir {m : Node} (h : goDir.Reaches skip below m) :
    below = [] ∧ m = goDir ∨ below = ["a.go"] ∧ m = .file ⟨#[]⟩ false := by
  obtain rfl | ⟨name, rfl, hmem⟩ := eq_nil_or_singleton_of_reaches (by decide) h
  · exact Or.inl ⟨rfl, (Option.some.inj h.1).symm⟩
  · obtain ⟨rfl, rfl⟩ := Prod.mk.inj (List.mem_singleton.mp hmem)
    exact Or.inr ⟨rfl, rfl⟩

/-- The Go file of a directory is listed. -/
theorem files_below_pkg :
    hyphenFiles.root.FullyNamed ∧ hyphenFiles.node "pkg" = .ok goDir ∧
      listDir hyphenFiles noRules "pkg" = .ok ["pkg/a.go"] := by
  obtain ⟨hdir, w, hstart, hw, hreached⟩ :=
    exists_reaches_hyphenFiles (show "pkg" ∈ ["-", "pkg"] by decide)
  obtain ⟨-, hexact, hlist⟩ := files_below_directory fullyNamed_hyphenFiles hdir noRules
  obtain ⟨-, -, hlisting⟩ := (hlist (by decide)).2 w hstart
  refine ⟨fullyNamed_hyphenFiles, hdir, ?_⟩
  have hpath : w.spelled ["a.go"] = "pkg/a.go" := by
    rw [Walk.spelled, hw]
    decide
  have hencoded : Text.encoded "pkg/a.go" = "pkg/a.go" := Text.encoded_of_ascii (by decide +kernel)
  have hutf8 : w.SpelledInUtf8 (w.skips hyphenFiles) goDir := by
    intro below content executable h
    obtain ⟨-, hfile⟩ | ⟨rfl, -⟩ := eq_of_reaches_goDir h
    · cases hfile
    · exact ⟨_, hpath.trans hencoded.symm⟩
  obtain ⟨paths, hpaths⟩ := hlisting.exists_ok (by decide) (by rw [hw]; decide)
  rw [hpaths] at hlisting ⊢
  obtain ⟨hsorted, hmem⟩ := hexact w _ _ paths hlisting hutf8
  have hsingle (path : String) : path ∈ paths ↔ path ∈ ["pkg/a.go"] := by
    rw [hmem, List.mem_singleton, ← Text.encoded_injective.eq_iff, hencoded, ← hpath]
    constructor
    · rintro ⟨below, content, executable, h, heq⟩
      obtain ⟨-, hfile⟩ | ⟨rfl, -⟩ := eq_of_reaches_goDir h
      · cases hfile
      · exact heq
    · exact fun heq => ⟨_, _, _, hreached, heq⟩
  rw [(hsorted.imp Text.lt_iff_utf8_lt.mpr).eq_of_mem_iff (List.pairwise_singleton _ _) hsingle]

/-- **A directory that is called by a hyphen** is taken for the standard input: its Go file is not
listed, though nothing skips it. -/
theorem hyphen_unlisted :
    hyphenFiles.root.FullyNamed ∧ hyphenFiles.node "-" = .ok goDir ∧
      listDir hyphenFiles noRules "-" = .ok [] ∧
      ∃ w, Walk.start hyphenFiles noRules "-" = .ok w ∧
        goDir.Reaches (w.skips hyphenFiles) ["a.go"] (.file ⟨#[]⟩ false) ∧
        ¬ Listing w (w.skips hyphenFiles) w.unread? goDir (listDir hyphenFiles noRules "-") := by
  obtain ⟨hdir, w, hstart, -, hreached⟩ :=
    exists_reaches_hyphenFiles (show "-" ∈ ["-", "pkg"] by decide)
  have hempty : listDir hyphenFiles noRules "-" = .ok [] := rfl
  refine ⟨fullyNamed_hyphenFiles, hdir, hempty, w, hstart, hreached, ?_⟩
  rw [hempty]
  rintro (_ | ⟨-, -, hmem, hperm, -⟩)
  have hnone := List.map_eq_nil_iff.mp hperm.symm.eq_nil
  have hfile := (hmem _).mpr ⟨_, _, hreached⟩
  rw [hnone] at hfile
  cases hfile

/-! ### Two names that are not UTF-8 -/

/-- A directory with two files, the names of which are not UTF-8. -/
def latinDir : Node := .dir [("\u00ff.go", .file ⟨#[]⟩ false), ("\u00fe.go", .file ⟨#[]⟩ false)]

/-- The directory in the root. -/
def latinFiles : Files := ⟨.dir [("pkg", latinDir)], []⟩

theorem fullyNamed_latinFiles : latinFiles.root.FullyNamed := by
  have hlatin : latinDir.FullyNamed := by
    refine Node.fullyNamed_dir (by decide) (by decide) (List.forall_mem_cons.mpr ⟨?_, ?_⟩)
    · exact Node.fullyNamed_of_isDir rfl
    · exact List.forall_mem_singleton.mpr (Node.fullyNamed_of_isDir rfl)
  exact Node.fullyNamed_dir (by decide) (by decide) (List.forall_mem_singleton.mpr hlatin)

/-- **Two files are listed by the same text**, which is the path of neither. -/
theorem names_shown_alike :
    latinFiles.root.FullyNamed ∧ latinFiles.node "pkg" = .ok latinDir ∧
      listDir latinFiles noRules "pkg" = .ok ["pkg/\ufffd.go", "pkg/\ufffd.go"] ∧
      ∃ w, Walk.start latinFiles noRules "pkg" = .ok w ∧
        latinDir.Reaches (w.skips latinFiles) ["\u00ff.go"] (.file ⟨#[]⟩ false) ∧
        latinDir.Reaches (w.skips latinFiles) ["\u00fe.go"] (.file ⟨#[]⟩ false) ∧
        ¬ w.ListsExactly (w.skips latinFiles) latinDir ["pkg/\ufffd.go", "pkg/\ufffd.go"] := by
  have htop : latinFiles.place "/" true = .ok [] := by cbv
  have hplace : latinFiles.place "pkg" true = .ok ["pkg"] := by cbv
  have hroot : latinFiles.RuleFree "/" := Files.ruleFree_of_entries htop rfl (by decide)
  obtain ⟨hdir, w, hstart, hw, hreached⟩ :=
    exists_reaches_file hroot hplace rfl (by decide) (by decide)
  have hfirst := hreached "\u00ff.go" _ _ (by decide) rfl
  have hsecond := hreached "\u00fe.go" _ _ (by decide) rfl
  refine ⟨fullyNamed_latinFiles, hdir, ?_, w, hstart, hfirst, hsecond, fun h => ?_⟩
  · have hnamed : latinDir.FullyNamed :=
      fullyNamed_latinFiles.of_get? (show latinFiles.root.get? ["pkg"] = some latinDir from rfl)
    have hlisting : Listing w (w.skips latinFiles) w.unread? latinDir
        (w.list (w.skips latinFiles) w.unread? latinDir) := w.list_listing _ _ hnamed
    rw [listDir_of_dir (by decide) hdir, hstart]
    change w.list (w.skips latinFiles) w.unread? latinDir = _
    obtain ⟨paths, hpaths⟩ := hlisting.exists_ok (by decide) (by rw [hw]; decide)
    rw [hpaths] at hlisting ⊢
    obtain _ | @⟨reached, _, -, hnodup, hmem, hperm, -⟩ := hlisting
    -- Both places are reached, and their paths are shown by the same text.
    have hboth : reached.Perm [["\u00ff.go"], ["\u00fe.go"]] := by
      refine (List.perm_ext_iff_of_nodup hnodup (by decide)).mpr fun below => ?_
      rw [hmem]
      constructor
      · rintro ⟨content, executable, hfile⟩
        obtain rfl | ⟨name, rfl, hname⟩ := eq_nil_or_singleton_of_reaches (by decide) hfile
        · cases hfile.1
        · simp only [List.mem_cons, Prod.mk.injEq, List.not_mem_nil, or_false] at hname
          obtain ⟨rfl, -⟩ | ⟨rfl, -⟩ := hname <;> decide
      · intro hbelow
        simp only [List.mem_cons, List.not_mem_nil, or_false] at hbelow
        obtain rfl | rfl := hbelow
        · exact ⟨_, _, hfirst⟩
        · exact ⟨_, _, hsecond⟩
    have hshown : [["\u00ff.go"], ["\u00fe.go"]].map (fun below => Text.decoded (w.spelled below)) =
        List.replicate 2 "pkg/\ufffd.go" := by
      simp only [Walk.spelled, hw]
      cbv
    have htwo := hperm.trans (hboth.map _)
    rw [hshown, List.perm_replicate] at htwo
    rw [htwo]
    rfl
  · exact List.lt_irrefl _ ((List.pairwise_cons.mp h.ascending).1 _ List.mem_cons_self)

end LintVerdict
