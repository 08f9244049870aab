import LintVerdict.Proofs.Files.Walk
import LintVerdict.Proofs.Text
import LintVerdict.Proofs.Text.Split
import LintVerdict.Scope

/-!
# Scopes on a command line

The Go tools read an argument as a path if it says where it begins: at the current directory, above
it, or at the root. Anything else is an import path to them. A scope is written with a `./` before
it unless it begins with a dot or a slash. The file says that this names the same directory, and
that it makes a path of every scope but those whose first name begins with a dot itself.

## Main definitions

* `FilePath.ReadsAsPath`: the arguments that the Go tools read as paths.
* `FilePath.HasDotName`: the paths whose first name begins with a dot.
* `FilePath.LeadAlike`: paths that name the same.

## Main results

* `Scope.leadAlike_arg`: the argument names the directory of the scope.
* `Scope.readsAsPath_arg_iff`: which arguments are read as paths.
* `arg_names_path_iff`: the argument of a scope.
-/

namespace LintVerdict

namespace FilePath

/-- An argument that the Go tools read as a path: it says that it begins at the current directory,
above it, or at the root. -/
def ReadsAsPath (p : String) : Prop :=
  p = "." ∨ p = ".." ∨ ['.', '/'] <+: p.toList ∨ ['.', '.', '/'] <+: p.toList ∨ ['/'] <+: p.toList

instance (p : String) : Decidable (ReadsAsPath p) :=
  inferInstanceAs (Decidable (_ ∨ _))

/-- A path whose first name begins with a dot, but is neither one dot nor two. -/
def HasDotName (p : String) : Prop :=
  ∃ name rest, Text.splitChars '/' p.toList = ('.' :: name) :: rest ∧ name ≠ [] ∧ name ≠ ['.']

/-- Two paths that name the same: in every tree and from every directory they lead to the same
place, or fail to do so for the same reason. -/
def LeadAlike (p q : String) : Prop :=
  ∀ (f : Files) (links : Nat),
    f.root.walk links true (f.start p) (Text.splitAt '/' p) =
      f.root.walk links true (f.start q) (Text.splitAt '/' q)

/-! ### The first name -/

variable {p : String} {name rest : List Char}

/-- A path of one name that begins with a dot. -/
theorem readsAsPath_iff_of_notMem (h : p.toList = '.' :: name) (hname : '/' ∉ name) :
    ReadsAsPath p ↔ name = [] ∨ name = ['.'] := by
  have hdot : p = "." ↔ name = [] := by
    rw [← String.toList_inj, h]
    simp
  have hdots : p = ".." ↔ name = ['.'] := by
    rw [← String.toList_inj, h]
    simp
  have hhere : ¬ ['.', '/'] <+: p.toList := by
    rw [h, List.cons_prefix_cons]
    rintro ⟨-, hslash⟩
    exact hname (hslash.subset (List.mem_singleton_self _))
  have habove : ¬ ['.', '.', '/'] <+: p.toList := by
    rw [h, List.cons_prefix_cons]
    rintro ⟨-, hslash⟩
    exact hname (hslash.subset (by simp))
  have hroot : ¬ ['/'] <+: p.toList := by
    rw [h, List.cons_prefix_cons]
    simp
  rw [ReadsAsPath, hdot, hdots]
  simp only [hhere, habove, hroot, or_false]

/-- A path below a name that begins with a dot. -/
theorem readsAsPath_iff_of_cut (h : p.toList = '.' :: (name ++ '/' :: rest)) (hname : '/' ∉ name) :
    ReadsAsPath p ↔ name = [] ∨ name = ['.'] := by
  have hslash : '/' ∈ p.toList := by
    rw [h]
    simp
  have hdot : p ≠ "." := by
    rintro rfl
    exact absurd hslash (by decide)
  have hdots : p ≠ ".." := by
    rintro rfl
    exact absurd hslash (by decide)
  constructor
  · rw [ReadsAsPath, h]
    simp only [hdot, hdots, false_or, List.cons_prefix_cons]
    rcases name with - | ⟨c, - | ⟨d, name⟩⟩
    · simp
    · simp only [List.mem_singleton] at hname
      simp [hname, eq_comm]
    · simp only [List.mem_cons, not_or] at hname
      simp [hname]
  · rintro (rfl | rfl)
    · exact Or.inr (Or.inr (Or.inl (by rw [h]; simp)))
    · exact Or.inr (Or.inr (Or.inr (Or.inl (by rw [h]; simp))))

/-- The first name of a path that begins with a dot. -/
theorem hasDotName_iff (hname : '/' ∉ name)
    (h : p.toList = '.' :: name ∨ p.toList = '.' :: (name ++ '/' :: rest)) :
    HasDotName p ↔ ¬ (name = [] ∨ name = ['.']) := by
  have hpiece : '/' ∉ '.' :: name := by simp [hname]
  have hfirst : ∃ more, Text.splitChars '/' p.toList = ('.' :: name) :: more := by
    rw [Text.splitChars_eq_splitOn]
    rcases h with h | h
    · exact ⟨[], by rw [h, List.splitOn_eq_singleton hpiece]⟩
    · exact ⟨rest.splitOn '/', by
        rw [h, ← List.cons_append, List.splitOn_append_cons_self_of_not_mem hpiece]⟩
  obtain ⟨more, hmore⟩ := hfirst
  rw [HasDotName, hmore, not_or]
  constructor
  · rintro ⟨_, _, heq, hne⟩
    obtain ⟨hcons, -⟩ := List.cons.inj heq
    exact (List.cons.inj hcons).2 ▸ hne
  · exact fun hne => ⟨name, more, rfl, hne⟩

/-- **Which paths are read as paths** among those that begin with a dot. -/
theorem readsAsPath_iff_of_dot {cs : List Char} (h : p.toList = '.' :: cs) :
    ReadsAsPath p ↔ ¬ HasDotName p := by
  rcases notMem_or_cut '/' cs with hcs | ⟨name, rest, hname, rfl⟩
  · rw [readsAsPath_iff_of_notMem h hcs, @hasDotName_iff p cs [] hcs (Or.inl h), not_not]
  · rw [readsAsPath_iff_of_cut h hname, hasDotName_iff hname (Or.inr h), not_not]

/-- A path that does not begin with a dot has no first name that does. -/
theorem not_hasDotName (h : p.toList.head? ≠ some '.') : ¬ HasDotName p := by
  rintro ⟨name, rest, hsplit, -⟩
  have hglue : p.toList = List.intercalate ['/'] (('.' :: name) :: rest) := by
    rw [← hsplit, Text.splitChars_eq_splitOn, List.intercalate_splitOn]
  refine h ?_
  rw [hglue]
  cases rest with
  | nil => rfl
  | cons piece rest =>
      rw [List.intercalate_cons_cons]
      rfl

end FilePath

/-! ### The argument of a scope -/

namespace Scope

open FilePath

/-- What stands before a scope, if anything does. -/
theorem arg_cases (s : Scope) :
    s.arg = s.path ∧ (s.path.toList.head? = some '.' ∨ s.path.toList.head? = some '/') ∨
      s.arg = "./" ++ s.path ∧ s.path.toList.head? ≠ some '.' ∧
        s.path.toList.head? ≠ some '/' := by
  rw [arg]
  split
  · next h => exact Or.inl ⟨rfl, Or.inl (by rw [h]; rfl)⟩
  · next h => exact Or.inl ⟨rfl, Or.inr (by rw [h]; rfl)⟩
  · next hdot hslash =>
    refine Or.inr ⟨rfl, fun h => ?_, fun h => ?_⟩
    · obtain ⟨rest, hrest⟩ := List.head?_eq_some_iff.mp h
      exact hdot rest hrest
    · obtain ⟨rest, hrest⟩ := List.head?_eq_some_iff.mp h
      exact hslash rest hrest

theorem toList_dotSlash (p : String) : ("./" ++ p).toList = '.' :: '/' :: p.toList := by
  rw [String.toList_append]
  rfl

/-- **The argument names the directory of the scope.** -/
theorem leadAlike_arg (s : Scope) : LeadAlike s.arg s.path := by
  rcases s.arg_cases with ⟨harg, -⟩ | ⟨harg, hdot, hslash⟩
  · rw [harg]
    exact fun _ _ => rfl
  · intro f links
    have hstart : f.start ("./" ++ s.path) = f.start s.path := by
      rw [Files.start, Files.start, isAbsolute, isAbsolute, toList_dotSlash,
        if_neg (by simp), if_neg (by simpa using hslash)]
    have hsplit : Text.splitAt '/' ("./" ++ s.path) = "." :: Text.splitAt '/' s.path := by
      rw [Text.splitAt, Text.splitAt, toList_dotSlash, Text.splitChars_eq_splitOn,
        Text.splitChars_eq_splitOn]
      have h := List.splitOn_append_cons_self_of_not_mem (show '/' ∉ ['.'] by decide)
        s.path.toList
      exact congrArg (List.map String.ofList) h
    have hpieces : Text.splitAt '/' s.path ≠ [] := by
      rw [Text.splitAt, Text.splitChars_eq_splitOn]
      simp
    rw [harg, hstart, hsplit, Node.walk_idle_of_ne_nil (Or.inr rfl) hpieces]

/-- **Which arguments are read as paths**: those of the scopes whose first name does not begin with
a dot. -/
theorem readsAsPath_arg_iff (s : Scope) : ReadsAsPath s.arg ↔ ¬ HasDotName s.path := by
  rcases s.arg_cases with ⟨harg, hdot | hslash⟩ | ⟨harg, hdot, -⟩
  · obtain ⟨rest, hrest⟩ := List.head?_eq_some_iff.mp hdot
    rw [harg, readsAsPath_iff_of_dot hrest]
  · obtain ⟨rest, hrest⟩ := List.head?_eq_some_iff.mp hslash
    refine iff_of_true ?_ (not_hasDotName (by simp [hslash]))
    rw [harg]
    exact Or.inr (Or.inr (Or.inr (Or.inr (by simp [hrest]))))
  · refine iff_of_true ?_ (not_hasDotName hdot)
    rw [harg]
    exact Or.inr (Or.inr (Or.inl (by simp)))

/-- An argument is written as it is. -/
theorem arg_arg (s : Scope) : (⟨s.kind, s.arg⟩ : Scope).arg = s.arg := by
  rcases s.arg_cases with ⟨harg, -⟩ | ⟨harg, -⟩
  · rw [harg]
    exact harg
  · rw [harg, arg]
    dsimp only
    rw [toList_dotSlash]
    rfl

end Scope

/-- **The argument of a scope**, whatever scope it is. It names the directory of the scope, in
every tree and from every directory, and making an argument of it again changes nothing. The Go
tools read it as a path exactly if the first name of the scope does not begin with a dot, a name of
one dot or two apart. -/
theorem arg_names_path_iff (s : Scope) :
    FilePath.LeadAlike s.arg s.path ∧ (⟨s.kind, s.arg⟩ : Scope).arg = s.arg ∧
      (FilePath.ReadsAsPath s.arg ↔ ¬ FilePath.HasDotName s.path) :=
  ⟨s.leadAlike_arg, s.arg_arg, s.readsAsPath_arg_iff⟩

/-- A hidden directory is given to a linter by its bare name. -/
theorem hidden_directory_bare :
    (Scopes.ofFiles [".hidden/x.go"]).packages = [".hidden"] ∧
      (⟨.package, ".hidden"⟩ : Scope).arg = ".hidden" ∧ ¬ FilePath.ReadsAsPath ".hidden" := by
  decide

end LintVerdict
