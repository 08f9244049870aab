import LintVerdict.Toml.Value

/-!
# Tables under construction

The lines of a document add keys to tables. Whether a table may still be added to depends on
how it came about, so a draft remembers that.

## Main definitions

* `Draft`: a table or value under construction.
* `Draft.addKey?`: a key with its value, added to the table at a path.
* `Draft.openTable?`, `Draft.openElement?`: a table for the lines that follow.
* `Draft.finish`: the finished table, with its keys in ascending order.
-/

namespace LintVerdict.Toml

/-- How a table came about. -/
inductive Origin where
  /-- As a part of another table's header. -/
  | passed
  /-- As a part of a dotted key. -/
  | dotted
  /-- By a header of its own. -/
  | headed
  deriving DecidableEq, Repr

/-- A table or value under construction. -/
inductive Draft where
  /-- A finished value. -/
  | done (v : Toml)
  /-- A table that may grow. -/
  | open (origin : Origin) (entries : List (String × Draft))
  /-- A list of tables, of which the last may grow. -/
  | list (items : List Draft)

namespace Draft

/-- The entry of a key. -/
def find? (key : String) (entries : List (String × Draft)) : Option Draft :=
  (entries.find? fun e => e.1 = key).map (·.2)

/-- The entries with a key set. -/
def set (key : String) (d : Draft) : List (String × Draft) → List (String × Draft)
  | [] => [(key, d)]
  | (k, old) :: rest => if k = key then (k, d) :: rest else (k, old) :: set key d rest

/-- The entries after a change of the table at a path below them. Missing tables on the way are
made; a list of tables is entered at its last one. A dotted key leads through no table that has
a header, and nothing leads through a finished value. -/
def descend? (dotted : Bool)
    (change : Origin → List (String × Draft) → Option (List (String × Draft))) :
    List String → Origin → List (String × Draft) → Option (List (String × Draft))
  | [], origin, entries => change origin entries
  | key :: path, _, entries => do
    match find? key entries with
    | none =>
      let origin := if dotted then .dotted else .passed
      return set key (.open origin (← descend? dotted change path origin [])) entries
    | some (.open origin inner) =>
      if dotted && origin = .headed then none
      else return set key (.open origin (← descend? dotted change path origin inner)) entries
    | some (.list items) =>
      match items.reverse with
      | .open origin inner :: before =>
        let last := Draft.open origin (← descend? dotted change path origin inner)
        return set key (.list (last :: before).reverse) entries
      | _ => none
    | some (.done _) => none

/-- The entries with a new key below a dotted path, which must end in a table made by dotted
keys. -/
def addDotted? (path : List String) (key : String) (v : Toml) (origin : Origin)
    (entries : List (String × Draft)) : Option (List (String × Draft)) :=
  descend? true
    (fun at_ inner =>
      if path.isEmpty = (at_ = .dotted) || (find? key inner).isSome then none
      else some (set key (.done v) inner))
    path origin entries

/-- The entries with a new dotted key in the table of a header. -/
def addKey? (header path : List String) (key : String) (v : Toml)
    (entries : List (String × Draft)) : Option (List (String × Draft)) :=
  descend? false (addDotted? path key v) header .headed entries

/-- The entries with a table that a header opens. A table that was only passed through before
may still get a header. -/
def openTable? (path : List String) (key : String) (entries : List (String × Draft)) :
    Option (List (String × Draft)) :=
  descend? false
    (fun _ inner =>
      match find? key inner with
      | none => some (set key (.open .headed []) inner)
      | some (.open .passed old) => some (set key (.open .headed old) inner)
      | _ => none)
    path .headed entries

/-- The entries with one more table in a list of tables. -/
def openElement? (path : List String) (key : String) (entries : List (String × Draft)) :
    Option (List (String × Draft)) :=
  descend? false
    (fun _ inner =>
      match find? key inner with
      | none => some (set key (.list [.open .headed []]) inner)
      | some (.list items) => some (set key (.list (items ++ [.open .headed []])) inner)
      | _ => none)
    path .headed entries

mutual

/-- The finished value. -/
def toToml : Draft → Toml
  | done v => v
  | .open _ entries => .table ((entriesToToml entries).mergeSort fun a b => decide (a.1 ≤ b.1))
  | list items => .array (itemsToToml items)

/-- The finished values of a list. -/
def itemsToToml : List Draft → List Toml
  | [] => []
  | d :: rest => d.toToml :: itemsToToml rest

/-- The finished entries of a table. -/
def entriesToToml : List (String × Draft) → List (String × Toml)
  | [] => []
  | (k, d) :: rest => (k, d.toToml) :: entriesToToml rest

end

/-- The finished table. -/
def finish (entries : List (String × Draft)) : Toml := (Draft.open .headed entries).toToml

end Draft

end LintVerdict.Toml
