import LintVerdict.FileList
import LintVerdict.Ignore.Global

/-!
# Walking through a directory

All files below a directory are listed, except for those that are hidden or ignored. The rules
of the directories on the way to a path apply, and so do those of the directories above, and those
of the user.

## Main definitions

* `Node.filesBelow`: the files of a tree, but for those that are skipped or in a skipped directory.
* `Walk.skips`: whether the rules, or a leading dot, skip a path.
* `Walk.list`: the paths of the files of a tree as they are shown, in ascending order.
* `listDir`: the paths of the files below a directory.
-/

namespace LintVerdict

mutual

/-- The places of the files of a tree at a place, or the first directory that cannot be read. What
is skipped is not entered. Links are not followed. -/
def Node.filesBelow (skip : Place → Bool → Bool) (unread? : Place → Option SystemError)
    (here : Place) : Node → Except (Place × SystemError) (List Place)
  | .file _ _ => .ok [here]
  | .link _ => .ok []
  | .dir entries =>
    match unread? here with
    | some e => .error (here, e)
    | none => entriesBelow skip unread? here entries

/-- The places of the files of a directory's entries. -/
def entriesBelow (skip : Place → Bool → Bool) (unread? : Place → Option SystemError)
    (here : Place) : List (SystemText × Node) → Except (Place × SystemError) (List Place)
  | [] => .ok []
  | (name, n) :: rest =>
    if skip (here ++ [name]) n.isDir then entriesBelow skip unread? here rest
    else
      match n.filesBelow skip unread? (here ++ [name]) with
      | .error e => .error e
      | .ok found => (entriesBelow skip unread? here rest).map (found ++ ·)

end

/-- The rules of one directory. -/
structure IgnoreLevel where
  /-- The rules for every tool. -/
  general : RuleSet
  /-- The rules of the repository. -/
  shared : RuleSet
  /-- The rules of this copy of the repository. -/
  own : RuleSet

namespace IgnoreLevel

/-- The rules of a directory, and what is wrong in them. -/
def load (files : Files) (dir : SystemText) : IgnoreLevel × List String :=
  let (general, e1) := RuleSet.load files dir (FilePath.join dir ".ignore")
  let (shared, e2) := RuleSet.load files dir (FilePath.join dir ".gitignore")
  let (own, e3) := RuleSet.load files dir (FilePath.join (FilePath.join dir ".git") "info/exclude")
  (⟨general, shared, own⟩, e1 ++ e2 ++ e3)

end IgnoreLevel

/-- What a path is called where a level's rules are asked. -/
structure SeenFrom where
  /-- The rules. -/
  level : IgnoreLevel
  /-- The path. -/
  path : SystemText

/-- What levels of rules say, the nearest first. Rules for every tool come before those of the
repository, and those before the ones of this copy. -/
def IgnoreLevel.verdict (levels : List SeenFrom) (isDir : Bool) : Verdict :=
  let say (rules : IgnoreLevel → RuleSet) : Verdict :=
    .first (levels.map fun l => (rules l.level).verdict l.path isDir)
  (say general).orElse ((say shared).orElse (say own))

/-- Whether a name is hidden. -/
def isHidden (name : SystemText) : Bool := name.toList.head? = some '.'

/-- What a walk through a directory says about a path that cannot be read. -/
def ScopeError.unread (dir path : SystemText) (e : SystemError) : ScopeError :=
  let shown := Text.decoded path
  .walk (Text.decoded dir) (shown ++ ": IO error for operation on " ++ shown ++ ": " ++ e.message)

/-- A walk through a directory: the directory as it was given, its absolute path, the rules of the
directories above it, the nearest first, and those of the user. -/
structure Walk where
  /-- The directory. -/
  dir : SystemText
  /-- Its absolute path. -/
  absolute : SystemText
  /-- The rules above it. -/
  above : List IgnoreLevel
  /-- The rules of the user. -/
  global : RuleSet

namespace Walk

/-- The path of a place below the directory. -/
def path (w : Walk) (below : Place) : SystemText := below.foldl FilePath.join w.dir

/-- Why the directory at a place cannot be read: its path may be too long for the system. -/
def unread? (w : Walk) (below : Place) : Option SystemError :=
  if pathLimit ≤ (w.path below).length then some .nameTooLong else none

/-- The absolute path of a path below the directory. -/
def absolutePath (w : Walk) (path : SystemText) : SystemText :=
  let cs := dropStart ['.', '/'] path.toList
  let tail :=
    if FilePath.isDot w.dir then cs
    else dropStart ['/'] (dropStart (dropStart ['.', '/'] w.dir.toList) cs)
  FilePath.join w.absolute (String.ofList tail)

/-- The rules of the directories from the walk's own to that of a place, the nearest first. -/
def levels (w : Walk) (files : Files) (below : Place) : List IgnoreLevel :=
  ((List.range below.length).map fun i =>
    (IgnoreLevel.load files (w.path (below.take i))).1).reverse

/-- Whether a place below the directory is skipped: a rule ignores it, or it is hidden and no
rule keeps it. The rules of the user are asked last. -/
def skips (w : Walk) (files : Files) (below : Place) (isDir : Bool) : Bool :=
  let path := w.path below
  let near := (w.levels files below).map fun l => ⟨l, path⟩
  let far := w.above.map fun l => ⟨l, w.absolutePath path⟩
  match (IgnoreLevel.verdict (near ++ far) isDir).orElse (w.global.verdict path isDir) with
  | .ignored => true
  | .kept => false
  | .silent => below.getLast?.any isHidden

/-- The paths of the files of a tree as they are shown, in ascending order, or what cannot be
read. -/
def list (w : Walk) (skip : Place → Bool → Bool) (unread? : Place → Option SystemError)
    (n : Node) : Except ScopeError (List String) :=
  match n.filesBelow skip unread? [] with
  | .error (below, e) => .error (.unread w.dir (w.path below) e)
  | .ok places =>
    .ok ((places.map fun below => Text.decoded (w.path below)).mergeSort fun a b => decide (a ≤ b))

end Walk

/-- The directories above an absolute path, the nearest first. -/
def directoriesAbove : Nat → SystemText → List SystemText
  | 0, _ => []
  | budget + 1, path =>
    match FilePath.parent? path with
    | none => []
    | some p => p :: directoriesAbove budget p

/-- The walk through a directory, or what is wrong in the rules above it. -/
def Walk.start (files : Files) (global : RuleSet) (dir : SystemText) : Except String Walk :=
  match files.canonical dir with
  | .error _ => .ok ⟨dir, dir, [], global⟩
  | .ok absolute =>
    let loaded := (directoriesAbove absolute.length absolute).map (IgnoreLevel.load files)
    match (loaded.map (·.2)).reverse.flatten with
    | [] => .ok ⟨dir, absolute, loaded.map (·.1), global⟩
    | faults => .error (Text.joinWith "\n" faults)

/-- Whether a path stands for the standard input, in which there are no files. -/
def isStandardInput (dir : SystemText) : Bool :=
  let p := (FilePath.Pieces.ofPath dir).trimEnd
  p.start = .plain && p.body = [['-']]

/-- The paths of the files below a directory, or of the file that is given in its stead, as they are
shown and in ascending order. A link is followed only if it is given itself and leads to a
directory. -/
def listDir (files : Files) (global : RuleSet) (dir : SystemText) :
    Except ScopeError (List String) :=
  let refused (e : SystemError) : Except ScopeError (List String) := .error (.unread dir dir e)
  if isStandardInput dir then .ok []
  else
    match files.place dir false with
    | .error e => refused e
    | .ok place =>
      match files.root.get? place, files.node dir with
      | some (.file _ _), _ => .ok [Text.decoded dir]
      | _, .error e => refused e
      | _, .ok (.dir entries) =>
        match Walk.start files global dir with
        | .error e => .error (.walk (Text.decoded dir) e)
        | .ok w => w.list (w.skips files) w.unread? (.dir entries)
      | _, .ok _ => .ok []

end LintVerdict
