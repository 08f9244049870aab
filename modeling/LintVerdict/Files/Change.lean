import LintVerdict.Files.Tree

/-!
# Changes of a file tree

## Main definitions

* `Files.write`, `Files.makeDir`, `Files.makeLink`: new files, directories and links.
* `Files.remove`, `Files.removeDir`, `Files.rename`: names taken away.
* `Files.setExecutable`: the permission to run a file.
-/

namespace LintVerdict

namespace Node

/-- The entries with a name set to a node, or without the name. -/
def setEntry (name : SystemText) (value : Option Node) (entries : List (SystemText × Node)) :
    List (SystemText × Node) :=
  match value with
  | none => entries.filter fun e => e.1 ≠ name
  | some n =>
    if entries.any fun e => e.1 = name then
      entries.map fun e => if e.1 = name then (name, n) else e
    else entries ++ [(name, n)]

/-- The tree with a node at a place, or with nothing there. Above the place all stays; where
the place has no directory above it, nothing changes. -/
def replace : Node → Place → Option Node → Node
  | root, [], value => value.getD root
  | root, name :: rest, value =>
    match root with
    | dir entries =>
      match rest with
      | [] => dir (setEntry name value entries)
      | _ :: _ =>
        match root.entry? name with
        | some n => dir (setEntry name (some (n.replace rest value)) entries)
        | none => root
    | _ => root

end Node

namespace Files

/-- The tree with a node at a place, or with nothing there. -/
def replace (f : Files) (place : Place) (value : Option Node) : Files :=
  { f with root := f.root.replace place value }

/-- The directory in which the last name of a path is, and that name. -/
def slot (f : Files) (path : SystemText) : Except SystemError (Place × SystemText) := do
  let names := (Text.splitAt '/' path).reverse.dropWhile String.isEmpty
  match names with
  | [] => .error .alreadyThere
  | last :: before => do
    let dir ← f.root.walk linkLimit true (f.start path) before.reverse
    match f.root.get? dir with
    | some (.dir _) => .ok (dir, last)
    | _ => .error .notDirectory

/-- The place where a path would have a new file. A link that leads nowhere stands for the
path it holds. -/
def newPlace (f : Files) : Nat → SystemText → Except SystemError Place
  | 0, _ => .error .linkLoop
  | links + 1, path => do
    let (dir, name) ← f.slot path
    if path.toList.getLast? = some '/' || name = "." || name = ".." then .error .isDirectory
    else
      match f.root.get? (dir ++ [name]) with
      | some (.link target) => (f.inDir dir).newPlace links target
      | _ => .ok (dir ++ [name])

/-- The place that a path leads to, or where it would have a new file. -/
def placeOrNew (f : Files) (path : SystemText) : Except SystemError Place :=
  match f.place path true with
  | .error .notFound => if path.isEmpty then .error .notFound else f.newPlace linkLimit path
  | r => r

/-- The tree after a text has been written to a file, behind what is in it or in its stead. A
new file may not be run. -/
def write (f : Files) (path : SystemText) (append : Bool) (content : ByteArray) :
    Except SystemError Files := do
  let place ← f.placeOrNew path
  match f.root.get? place with
  | some (.dir _) => .error .isDirectory
  | some (.file old x) =>
    .ok (f.replace place (some (.file (if append then old ++ content else content) x)))
  | _ => .ok (f.replace place (some (.file content false)))

/-- The tree with a file made anew or changed in whether it may be run. -/
def setExecutable (f : Files) (path : SystemText) (executable : Bool) :
    Except SystemError Files := do
  let place ← f.place path true
  match f.root.get? place with
  | some (.file content _) => .ok (f.replace place (some (.file content executable)))
  | _ => .ok f

/-- The tree with one more name. -/
def addName (f : Files) (path : SystemText) (n : Node) : Except SystemError Files := do
  let (dir, name) ← f.slot path
  if name = "." || name = ".." || (f.root.get? (dir ++ [name])).isSome then .error .alreadyThere
  else .ok (f.replace (dir ++ [name]) (some n))

/-- The tree with one more directory. -/
def makeDir (f : Files) (path : SystemText) : Except SystemError Files := f.addName path (.dir [])

/-- The tree with one more link. -/
def makeLink (f : Files) (target path : SystemText) : Except SystemError Files :=
  f.addName path (.link target)

/-- The paths of a path's directories from the outermost on, itself last. -/
def ancestry (path : SystemText) : List SystemText :=
  let pieces := Text.splitAt '/' path
  (List.range pieces.length).map fun i => Text.joinWith "/" (pieces.take (i + 1))

/-- The tree with a directory and those above it, as far as they are missing. -/
def makeDirs (f : Files) (path : SystemText) : Except SystemError Files :=
  ((ancestry path).filter fun p => !p.isEmpty).foldlM
    (fun f p => if f.isDir p then .ok f else f.makeDir p) f

/-- The node at a path, a link not followed. -/
def linkNode (f : Files) (path : SystemText) : Except SystemError (Place × Node) := do
  let place ← f.place path false
  match f.root.get? place with
  | some n => .ok (place, n)
  | none => .error .notFound

/-- The tree without a file or link. -/
def remove (f : Files) (path : SystemText) : Except SystemError Files := do
  match ← f.linkNode path with
  | (_, .dir _) => .error .isDirectory
  | (place, _) => .ok (f.replace place none)

/-- The tree without an empty directory. -/
def removeDir (f : Files) (path : SystemText) : Except SystemError Files := do
  match ← f.linkNode path with
  | (place, .dir []) => .ok (f.replace place none)
  | (_, .dir _) => .error .notEmpty
  | _ => .error .notDirectory

/-- The tree without a name and all below it. -/
def removeAll (f : Files) (path : SystemText) : Except SystemError Files := do
  let (place, _) ← f.linkNode path
  return f.replace place none

/-- The tree with a name moved to another path. What was there before is gone. -/
def rename (f : Files) (source target : SystemText) : Except SystemError Files := do
  let (place, n) ← f.linkNode source
  let (dir, name) ← f.slot target
  return (f.replace place none).replace (dir ++ [name]) (some n)

end Files

end LintVerdict
