import Mathlib.Data.List.Sort
import Mathlib.Tactic.TFAE
import Mathlib.Data.String.Basic
import LintVerdict.Proofs.Builtin
import LintVerdict.Proofs.Template.Braces

/-!
# The views of a registry

A registry is made of declarations with distinct ids. It is refused for the first declaration that
is not usable. The registry that comes of usable ones answers by several ways: whether there is a
linter of an id, which one, and which ids there are. The file shows that these ways agree, that a
declared linter is what its declaration says, and that all other ids are as without declarations.

## Main definitions

* `LinterDefinition.Usable`: the template and the pattern of a declaration are well formed.
* `LinterDefinition.Fault`: the fault of a declaration, the template's before the pattern's.
* `LinterSpec.Declared`: a linter is what a declaration says.

## Main results

* `Registry.exists_ofDefinitions_iff`, `Registry.ofDefinitions_eq_error_iff`: which declarations
  make a registry, and for which one it is refused.
* `Registry.contains_tfae`: the ways to ask for an id agree.
* `Registry.get?_declared`, `Registry.get?_undeclared`: a declaration settles its own id only.
* `registry_views`: all of these of one registry.
-/

namespace LintVerdict

/-! ### Declarations -/

/-- The template and the pattern of a declaration are well formed. -/
structure LinterDefinition.Usable (d : LinterDefinition) : Prop where
  command : ∃ t, CommandTemplate.parse d.command = .ok t
  pattern : ∃ p, OutputPattern.parse d.pattern = .ok p

/-- The fault of the declaration of an id. That of the template is told before that of the
pattern. -/
inductive LinterDefinition.Fault (id : String) (d : LinterDefinition) : RegistryError → Prop
  | template {fault : TemplateError} :
      CommandTemplate.parse d.command = .error fault → Fault id d (.template id fault)
  | pattern {t : CommandTemplate} {fault : PatternError} :
      CommandTemplate.parse d.command = .ok t → OutputPattern.parse d.pattern = .error fault →
      Fault id d (.pattern id fault)

/-- A linter is what the declaration of an id says. -/
structure LinterSpec.Declared (id : String) (d : LinterDefinition) (s : LinterSpec) : Prop where
  id : s.id = id
  template : CommandTemplate.parse d.command = .ok s.template
  /-- The words of the command are the program and the arguments as they are written. -/
  words : Text.wordChars d.command.toList = s.program.toList :: s.template.args.map Token.raw
  target : s.target = d.target
  pattern : OutputPattern.parse d.pattern = .ok s.pattern
  /-- The pattern remembers how it is written. -/
  source : s.pattern.source = d.pattern
  message : s.message = d.message
  install : s.install = d.install

/-- A pattern remembers how it is written. -/
theorem OutputPattern.source_of_parse {pattern : String} {p : OutputPattern}
    (h : OutputPattern.parse pattern = .ok p) : p.source = pattern := by
  delta OutputPattern.parse at h
  split at h
  · exact absurd h nofun
  · split at h
    · rw [← Except.ok.inj h]
    · exact absurd h nofun

namespace LinterSpec

variable {id : String} {d : LinterDefinition}

/-- **A compiled linter is what its declaration says.** -/
theorem declared_of_compile {s : LinterSpec} (h : compile id d = .ok s) : Declared id d s := by
  obtain ⟨t, p, ht, hp, rfl⟩ := compile_eq_ok_iff.mp h
  exact ⟨rfl, ht, (CommandTemplate.spells_of_parse ht).tokens_eq, rfl, hp,
    OutputPattern.source_of_parse hp, rfl, rfl⟩

/-- Exactly the usable declarations are compiled. -/
theorem exists_compile_iff : (∃ s, compile id d = .ok s) ↔ d.Usable := by
  constructor
  · rintro ⟨s, h⟩
    obtain ⟨t, p, ht, hp, -⟩ := compile_eq_ok_iff.mp h
    exact ⟨⟨t, ht⟩, ⟨p, hp⟩⟩
  · rintro ⟨⟨t, ht⟩, ⟨p, hp⟩⟩
    exact ⟨_, compile_eq_ok_iff.mpr ⟨t, p, ht, hp, rfl⟩⟩

/-- A declaration is refused for its fault. -/
theorem compile_eq_error_iff {e : RegistryError} : compile id d = .error e ↔ d.Fault id e := by
  rw [compile, bind_eq_error_iff]
  constructor
  · rintro (h | ⟨t, ht, h⟩)
    · obtain ⟨fault, hfault, rfl⟩ := mapError_eq_error_iff.mp h
      exact .template hfault
    · obtain h | ⟨p, -, h⟩ := bind_eq_error_iff.mp h
      · obtain ⟨fault, hfault, rfl⟩ := mapError_eq_error_iff.mp h
        exact .pattern (mapError_eq_ok_iff.mp ht) hfault
      · cases h
  · rintro (hfault | ⟨ht, hfault⟩)
    · exact Or.inl (mapError_eq_error_iff.mpr ⟨_, hfault, rfl⟩)
    · exact Or.inr ⟨_, mapError_eq_ok_iff.mpr ht,
        bind_eq_error_iff.mpr (Or.inl (mapError_eq_error_iff.mpr ⟨_, hfault, rfl⟩))⟩

end LinterSpec

namespace Registry

variable {definitions : List (String × LinterDefinition)} {r : Registry} {id : String}

/-! ### Making a registry -/

theorem ofDefinitions_eq_ok_iff :
    ofDefinitions definitions = .ok r ↔
      List.Forall₂ (fun d s => LinterSpec.compile d.1 d.2 = .ok s) definitions r.user := by
  rw [ofDefinitions, bind_eq_ok_iff, ← mapM_eq_ok_iff]
  constructor
  · rintro ⟨user, huser, h⟩
    rw [← Except.ok.inj h, huser]
  · exact fun h => ⟨r.user, h, rfl⟩

/-- **A registry is refused for the first declaration that is not usable.** -/
theorem ofDefinitions_eq_error_iff {e : RegistryError} :
    ofDefinitions definitions = .error e ↔
      ∃ front id d back, definitions = front ++ (id, d) :: back ∧ (∀ x ∈ front, x.2.Usable) ∧
        d.Fault id e := by
  have hbind : ofDefinitions definitions = .error e ↔
      (definitions.mapM fun d => LinterSpec.compile d.1 d.2) = .error e := by
    rw [ofDefinitions, bind_eq_error_iff]
    exact or_iff_left fun ⟨_, _, h⟩ => absurd h nofun
  rw [hbind, mapM_eq_error_iff]
  simp only [LinterSpec.exists_compile_iff, LinterSpec.compile_eq_error_iff, Prod.exists]

/-- **Usable declarations make a registry**, and no others. -/
theorem exists_ofDefinitions_iff :
    (∃ r, ofDefinitions definitions = .ok r) ↔ ∀ d ∈ definitions, d.2.Usable := by
  have hmade : (∃ r, ofDefinitions definitions = .ok r) ↔
      ∃ user, List.Forall₂ (fun d s => LinterSpec.compile d.1 d.2 = .ok s) definitions user := by
    simp only [ofDefinitions_eq_ok_iff]
    exact ⟨fun ⟨r, h⟩ => ⟨r.user, h⟩, fun ⟨user, h⟩ => ⟨⟨user⟩, h⟩⟩
  rw [hmade, exists_forall₂_iff]
  simp only [LinterSpec.exists_compile_iff]

/-- The user's linters have the declared ids, in the order of the declarations. -/
theorem user_ids (h : ofDefinitions definitions = .ok r) :
    r.user.map LinterSpec.id = definitions.map Prod.fst := by
  have hids : List.Forall₂ (fun d s => d.1 = s.id) definitions r.user :=
    (ofDefinitions_eq_ok_iff.mp h).imp fun _ _ hs => (LinterSpec.id_of_compile hs).symm
  rw [← List.forall₂_eq_eq_eq, List.forall₂_map_left_iff, List.forall₂_map_right_iff]
  exact hids.flip.imp fun _ _ => Eq.symm

/-! ### The ids -/

theorem hasUser_iff : r.hasUser id = true ↔ id ∈ r.user.map LinterSpec.id := by
  simp [hasUser]

/-- Exactly the ids of the table are those of built-in linters. -/
theorem isSome_builtinSpec?_iff :
    (builtinSpec? id).isSome = true ↔ id ∈ builtinLinters.map Prod.fst := by
  constructor
  · intro h
    obtain ⟨s, hs⟩ := Option.isSome_iff_exists.mp h
    obtain ⟨b, hb, -⟩ := Option.bind_eq_some_iff.mp hs
    have hid : b.1 = id := by simpa using List.find?_some hb
    exact hid ▸ List.mem_map_of_mem (List.mem_of_find?_eq_some hb)
  · intro h
    obtain ⟨b, hb, rfl⟩ := List.mem_map.mp h
    obtain ⟨p, hp⟩ := exists_builtin_pattern hb
    obtain ⟨s, hs, -⟩ := exists_builtin_spec hb hp
    exact Option.isSome_iff_exists.mpr ⟨s, hs⟩

/-- There is a linter of an id if a user declared it or if it is built in. -/
theorem isSome_get?_iff :
    (r.get? id).isSome = true ↔
      id ∈ r.user.map LinterSpec.id ∨ id ∈ builtinLinters.map Prod.fst := by
  rw [← isSome_builtinSpec?_iff, get?]
  cases hfind : r.user.find? fun s => s.id = id with
  | some s =>
      have hid : s.id = id := by simpa using List.find?_some hfind
      exact iff_of_true rfl (Or.inl (hid ▸ List.mem_map_of_mem (List.mem_of_find?_eq_some hfind)))
  | none =>
      have hnot : id ∉ r.user.map LinterSpec.id := by
        simpa [List.find?_eq_none] using hfind
      exact (or_iff_right hnot).symm

/-- The ids are those that a user declared and those that are built in. -/
theorem mem_ids_iff :
    id ∈ r.ids ↔ id ∈ r.user.map LinterSpec.id ∨ id ∈ builtinLinters.map Prod.fst := by
  rw [ids, List.mem_mergeSort, List.mem_append, List.mem_filter, Bool.not_eq_true',
    Bool.eq_false_iff, Ne, hasUser_iff]
  tauto

/-- **The ways to ask for an id agree.** -/
theorem contains_tfae (r : Registry) (id : String) :
    [r.contains id = true, (r.get? id).isSome = true, (r.lookup id).isOk = true,
      id ∈ r.ids].TFAE := by
  tfae_have 1 ↔ 4 := by
    rw [mem_ids_iff, ← hasUser_iff, contains, Bool.or_eq_true]
    simp
  tfae_have 2 ↔ 4 := by
    rw [isSome_get?_iff, mem_ids_iff]
  tfae_have 2 ↔ 3 := by
    rw [lookup]
    cases r.get? id <;> simp [Except.isOk, Except.toBool]
  tfae_finish

/-- **The ids ascend, none twice**, if no two of the user's linters have the same. -/
theorem ids_ascending (h : (r.user.map LinterSpec.id).Nodup) : r.ids.Pairwise (· < ·) := by
  have hnodup : (r.user.map LinterSpec.id ++
      (builtinLinters.map (·.1)).filter fun id => !r.hasUser id).Nodup := by
    refine h.append (nodup_builtin_ids.filter _) fun id huser hbuiltin => ?_
    have hnot := (List.mem_filter.mp hbuiltin).2
    rw [hasUser_iff.mpr huser] at hnot
    exact absurd hnot nofun
  exact (List.sortedLE_mergeSort.sortedLT_of_nodup
    ((List.mergeSort_perm _ _).nodup_iff.mpr hnodup)).pairwise

/-! ### The linters -/

/-- **A declared linter is what its declaration says.** -/
theorem get?_declared (hids : (definitions.map Prod.fst).Nodup)
    (h : ofDefinitions definitions = .ok r) {d : LinterDefinition} (hd : (id, d) ∈ definitions) :
    ∃ s, r.get? id = some s ∧ LinterSpec.Declared id d s := by
  obtain ⟨s, hs, hcompile⟩ := exists_of_forall₂_left (ofDefinitions_eq_ok_iff.mp h) hd
  have hid : s.id = id := LinterSpec.id_of_compile hcompile
  have hfind := find?_of_nodup_keys (user_ids h ▸ hids) hs
  rw [hid] at hfind
  exact ⟨s, by rw [get?, hfind], LinterSpec.declared_of_compile hcompile⟩

/-- **An id that is not declared is as without declarations.** -/
theorem get?_undeclared (h : ofDefinitions definitions = .ok r)
    (hid : id ∉ definitions.map Prod.fst) : r.get? id = builtin.get? id := by
  have hnone : r.user.find? (fun s => s.id = id) = none := by
    rw [← user_ids h] at hid
    simpa [List.find?_eq_none] using hid
  rw [get?, hnone]
  rfl

end Registry

/-- **The views of a registry agree, and a declaration settles its own id only.** Declarations with
distinct ids make a registry exactly if all are usable; otherwise it is refused for the first one
that is not. In a registry the ways to ask for an id agree, a declared id has the linter of its
declaration, any other id has the linter that it has without declarations, and the ids ascend and
are those declared and those built in. -/
theorem registry_views {definitions : List (String × LinterDefinition)}
    (hids : (definitions.map Prod.fst).Nodup) :
    ((∃ r, Registry.ofDefinitions definitions = .ok r) ↔ ∀ d ∈ definitions, d.2.Usable) ∧
      (∀ e, Registry.ofDefinitions definitions = .error e ↔
        ∃ front id d back, definitions = front ++ (id, d) :: back ∧ (∀ x ∈ front, x.2.Usable) ∧
          d.Fault id e) ∧
      ∀ r, Registry.ofDefinitions definitions = .ok r →
        (∀ id, [r.contains id = true, (r.get? id).isSome = true, (r.lookup id).isOk = true,
          id ∈ r.ids].TFAE) ∧
        (∀ id d, (id, d) ∈ definitions → ∃ s, r.get? id = some s ∧ LinterSpec.Declared id d s) ∧
        (∀ id, id ∉ definitions.map Prod.fst → r.get? id = Registry.builtin.get? id) ∧
        r.ids.Pairwise (· < ·) ∧
        ∀ id, id ∈ r.ids ↔
          id ∈ definitions.map Prod.fst ∨ id ∈ builtinLinters.map Prod.fst := by
  refine ⟨Registry.exists_ofDefinitions_iff, fun e => Registry.ofDefinitions_eq_error_iff,
    fun r hr => ⟨r.contains_tfae, fun id d => Registry.get?_declared hids hr,
      fun id => Registry.get?_undeclared hr, ?_, fun id => ?_⟩⟩
  · exact Registry.ids_ascending (Registry.user_ids hr ▸ hids)
  · rw [Registry.mem_ids_iff, Registry.user_ids hr]

/-- Declarations of a built-in linter and of a new one. -/
def strictDefinitions : List (String × LinterDefinition) :=
  [("vet", ⟨"strictvet", Shorthand.lineOnly.name, .goFiles, none, none⟩),
    ("check", ⟨"check -all", Shorthand.lineAndColumn.name, .path, none, none⟩)]

/-- The declared linters are found under their ids, and the built-in ones under theirs. -/
theorem registry_views_strict :
    (strictDefinitions.map Prod.fst).Nodup ∧
      ∃ r, Registry.ofDefinitions strictDefinitions = .ok r ∧
        (∃ s, r.get? "vet" = some s ∧ s.target = .goFiles) ∧
        r.get? "gofmt" = Registry.builtin.get? "gofmt" ∧ "check" ∈ r.ids ∧ "gofmt" ∈ r.ids := by
  have hids : (strictDefinitions.map Prod.fst).Nodup := by
    decide
  obtain ⟨hmade, -, hviews⟩ := registry_views hids
  have hvet : CommandTemplate.parse "strictvet" = .ok ⟨"strictvet", []⟩ := by
    decide +kernel
  have hcheck : CommandTemplate.parse "check -all" =
      .ok ⟨"check", [⟨"-all".toList, [.literal "-all".toList]⟩]⟩ := by
    decide +kernel
  have husable : ∀ d ∈ strictDefinitions, d.2.Usable :=
    List.forall_mem_cons.mpr ⟨⟨⟨_, hvet⟩, ⟨_, Shorthand.lineOnly.parse_name⟩⟩,
      List.forall_mem_singleton.mpr ⟨⟨_, hcheck⟩, ⟨_, Shorthand.lineAndColumn.parse_name⟩⟩⟩
  obtain ⟨r, hr⟩ := hmade.mpr husable
  obtain ⟨-, hdeclared, hother, -, hmem⟩ := hviews r hr
  obtain ⟨s, hs, hspec⟩ := hdeclared "vet" _ List.mem_cons_self
  exact ⟨hids, r, hr, ⟨s, hs, hspec.target⟩, hother "gofmt" (by decide),
    (hmem "check").mpr (Or.inl (by decide)), (hmem "gofmt").mpr (Or.inr (by decide))⟩

end LintVerdict
