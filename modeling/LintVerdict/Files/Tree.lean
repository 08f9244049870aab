import LintVerdict.Files.Error
import LintVerdict.Files.Path

/-!
# File trees

A tree of directories, files and symbolic links, and what a path means in it. Names are texts of the
system, which need not be UTF-8.

## Main definitions

* `Node`: a file, a link or a directory with named entries.
* `Files`: a tree with a current directory.
* `Files.place`: the place a path leads to, all links on the way followed.
* `Files.readText`, `Files.names`, `Files.canonical`: what programs ask about paths.
-/

namespace LintVerdict

/-- What a name in a directory stands for. -/
inductive Node where
  /-- A regular file. -/
  | file (content : ByteArray) (executable : Bool)
  /-- A symbolic link to a path. -/
  | link (target : SystemText)
  /-- A directory. -/
  | dir (entries : List (SystemText × Node))

namespace Node

/-- The entries of a directory, none of anything else. -/
def entries : Node → List (SystemText × Node)
  | dir es => es
  | _ => []

/-- Whether a node is a directory. -/
def isDir : Node → Bool
  | dir _ => true
  | _ => false

/-- Whether a node is a regular file. -/
def isFile : Node → Bool
  | file _ _ => true
  | _ => false

/-- Whether a node is a regular file that may be run. -/
def isProgram : Node → Bool
  | file _ x => x
  | _ => false

/-- The entry of a name. -/
def entry? (n : Node) (name : SystemText) : Option Node :=
  (n.entries.find? fun e => e.1 = name).map (·.2)

/-- The node that names lead to, links not followed. -/
def get? : Node → List SystemText → Option Node
  | n, [] => some n
  | n, name :: rest => (n.entry? name).bind fun m => m.get? rest

end Node

/-- The place of a node: the names that lead to it from the root. -/
abbrev Place := List SystemText

/-- The absolute path of a place. -/
def Place.path (p : Place) : SystemText := "/" ++ Text.joinWith "/" p

/-- How many symbolic links a path may lead through. -/
def linkLimit : Nat := 40

/-- How many bytes a name may have. -/
def nameLimit : Nat := 255

/-- How many bytes a path must stay below. -/
def pathLimit : Nat := 4096

/-- The place that names lead to from a place on. A link that stands last is followed only on
demand, every other one always. Each name needs a directory to be looked up in. -/
def Node.walk (root : Node) (links : Nat) (followLast : Bool) (here : Place)
    (names : List SystemText) : Except SystemError Place :=
  match names with
  | [] => .ok here
  | name :: rest =>
    match root.get? here with
    | some (.dir entries) =>
      if name = "" || name = "." then root.walk links followLast here rest
      else if name = ".." then root.walk links followLast here.dropLast rest
      else if nameLimit < name.length then .error .nameTooLong
      else
        match entries.find? fun e => e.1 = name with
        | none => .error .notFound
        | some (_, .link target) =>
          if rest.isEmpty && !followLast then .ok (here ++ [name])
          else
            match links with
            | 0 => .error .linkLoop
            | links + 1 =>
              root.walk links followLast (if FilePath.isAbsolute target then [] else here)
                (Text.splitAt '/' target ++ rest)
        | some _ => root.walk links followLast (here ++ [name]) rest
    | _ => .error .notDirectory
  termination_by (links, names.length)

/-- A file tree with a current directory. -/
structure Files where
  /-- The root of the tree. -/
  root : Node
  /-- The current directory. -/
  cwd : Place

namespace Files

/-- Where the names of a path begin. -/
def start (f : Files) (path : SystemText) : Place := if FilePath.isAbsolute path then [] else f.cwd

/-- The place that a path leads to. -/
def place (f : Files) (path : SystemText) (followLast : Bool) : Except SystemError Place :=
  if path.contains '\x00' then .error .zeroInPath
  else if path.isEmpty then .error .notFound
  else if pathLimit ≤ path.length then .error .nameTooLong
  else f.root.walk linkLimit followLast (f.start path) (Text.splitAt '/' path)

/-- The node that a path leads to. -/
def node (f : Files) (path : SystemText) : Except SystemError Node := do
  match f.root.get? (← f.place path true) with
  | some n => .ok n
  | none => .error .notFound

/-- The absolute path without links that a path leads to. -/
def canonical (f : Files) (path : SystemText) : Except SystemError SystemText :=
  (f.place path true).map Place.path

/-- The current directory as an absolute path. -/
def here (f : Files) : SystemText := Place.path f.cwd

/-- Whether a path leads to something. -/
def has (f : Files) (path : SystemText) : Bool := (f.node path).isOk

/-- Whether a path leads to a regular file. -/
def isFile (f : Files) (path : SystemText) : Bool := (f.node path).toOption.any Node.isFile

/-- Whether a path leads to a directory. -/
def isDir (f : Files) (path : SystemText) : Bool := (f.node path).toOption.any Node.isDir

/-- Whether a path leads to a regular file that may be run. -/
def isProgram (f : Files) (path : SystemText) : Bool := (f.node path).toOption.any Node.isProgram

/-- The content of a file. -/
def read (f : Files) (path : SystemText) : Except SystemError ByteArray := do
  match ← f.node path with
  | .file content _ => .ok content
  | _ => .error .isDirectory

/-- The content of a text file. -/
def readText (f : Files) (path : SystemText) : Except SystemError String := do
  match String.fromUTF8? (← f.read path) with
  | some s => .ok s
  | none => .error .notUtf8

/-- The names in a directory, in no particular order. -/
def names (f : Files) (path : SystemText) : Except SystemError (List SystemText) := do
  match ← f.node path with
  | .dir entries => .ok (entries.map (·.1))
  | _ => .error .notDirectory

/-- The same tree seen from another directory. -/
def inDir (f : Files) (dir : Place) : Files := { f with cwd := dir }

end Files

end LintVerdict
