import LintVerdict.Linter.Builtin

/-!
# The registry of linters

A registry knows the built-in linters and those that a user declared. A user's linter hides the
built-in one of the same id.

## Main definitions

* `Registry.ofDefinitions`: the registry of a user's declarations, or the first faulty one.
* `Registry.get?`, `Registry.lookup`: the linter of an id.
* `Registry.ids`: all ids, in ascending order.
-/

namespace LintVerdict

/-- A list of pairs with distinct keys, with one more: a known key keeps its place and takes
the new value. -/
def setKey {α : Type} (key : String) (value : α) : List (String × α) → List (String × α)
  | [] => [(key, value)]
  | (k, v) :: rest => if k = key then (k, value) :: rest else (k, v) :: setKey key value rest

/-- The pairs with every key at its first place and with its last value. -/
def distinctKeys {α : Type} (pairs : List (String × α)) : List (String × α) :=
  pairs.foldl (fun m p => setKey p.1 p.2 m) []

/-- The linters that a user declared, on top of the built-in ones. -/
structure Registry where
  /-- The user's linters, in the order of their declaration. -/
  user : List LinterSpec
  deriving DecidableEq, Repr

/-- The built-in linter of an id. -/
def builtinSpec? (id : String) : Option LinterSpec :=
  (builtinLinters.find? fun b => b.1 = id).bind fun b => (LinterSpec.compile b.1 b.2).toOption

namespace Registry

/-- The registry of the built-in linters alone. -/
def builtin : Registry := ⟨[]⟩

/-- The registry of a user's declarations, given with distinct ids, or the fault of the first
faulty one. -/
def ofDefinitions (definitions : List (String × LinterDefinition)) :
    Except RegistryError Registry := do
  return ⟨← definitions.mapM fun d => LinterSpec.compile d.1 d.2⟩

/-- The linter of an id, if there is one. -/
def get? (r : Registry) (id : String) : Option LinterSpec :=
  match r.user.find? fun s => s.id = id with
  | some s => some s
  | none => builtinSpec? id

/-- The linter of an id, or the error that there is none. -/
def lookup (r : Registry) (id : String) : Except RegistryError LinterSpec :=
  match r.get? id with
  | some s => .ok s
  | none => .error (.notFound id)

/-- Whether a user declared a linter of this id. -/
def hasUser (r : Registry) (id : String) : Bool := r.user.any fun s => s.id = id

/-- Whether there is a linter of this id. -/
def contains (r : Registry) (id : String) : Bool :=
  r.hasUser id || builtinLinters.any fun b => b.1 = id

/-- All ids, in ascending order. -/
def ids (r : Registry) : List String :=
  (r.user.map LinterSpec.id ++
    ((builtinLinters.map (·.1)).filter fun id => !r.hasUser id)).mergeSort fun a b => decide (a ≤ b)

end Registry

end LintVerdict
