import LintVerdict.Proofs.CommandLine.Action
import LintVerdict.Proofs.Files.Location
import LintVerdict.Proofs.Scope

/-!
# Scopes do not depend on how files are spelled

The files of a command line are named from the current directory, in any way that leads to them.
They are rewritten for the root, and the scopes are read off what they are rewritten to. The file
says that the scopes are those of the places that the files lead to. So neither the current
directory nor the way in which a file is spelled decides anything. The names on the way from the
root to a file have to be UTF-8: others are shown as texts that may be the same for different
places.

## Main definitions

* `Files.Spells`: a path that leads to a place below the root.
* `Scopes.below`: the scopes of places below the root.
* `scopesFrom`: the scopes of files, seen from a root.

## Main results

* `Files.Spells.relativeToRoot_eq`: a path is rewritten to the names of its place.
* `ofFiles_relativeToRoot`: the scopes of rewritten paths are those of their places.
* `scopesOf_spelled`: the scopes of a command line.
* `scopes_bytes_merged`: two directories whose names are no UTF-8 may be one scope.
-/

namespace LintVerdict

open FilePath
open CommandLine (Action Settings findRoot relativeToRoot scopesOf)

/-- The names, all of them UTF-8, that lead from the root to a file. -/
abbrev Route := List String

namespace Route

/-- The path of a file from the root. -/
def path (rel : Route) : String := Text.joinWith "/" rel

/-- The directory of a file, from the root: a dot if there is no directory between. -/
def directory (rel : Route) : String := if rel.dropLast = [] then "." else path rel.dropLast

/-- The place of a file below the root. -/
def place (rel : Route) : Place := rel.map Text.encoded

end Route

/-- The scopes of files below the root: their distinct directories in first-seen order, and for
packages the same with Go files only. -/
def Scopes.below (rels : List Route) : Scopes where
  packages := ((rels.filter fun rel => isGo rel.path.toList).map Route.directory).eraseDups
  directories := (rels.map Route.directory).eraseDups

/-- A path that leads, from the current directory, to a file below a root, by names that stay as
they are when the scopes are read: in UTF-8, without a backslash, and without a blank at either
end. -/
structure Files.Spells (f : Files) (root : Place) (file : String) (rel : Route) : Prop where
  /-- The path leads to the place, all links followed. -/
  leads : f.place (join f.here (Text.encoded file)) true = .ok (root ++ rel.place)
  /-- The place is not the root. -/
  ne_nil : rel ≠ []
  /-- No backslash stands in its path. -/
  no_backslash : '\\' ∉ rel.path.toList
  /-- No blank stands before its path. -/
  no_blank_before : rel.path.toList.head?.any Text.isBlank = false
  /-- No blank stands behind its path. -/
  no_blank_behind : rel.path.toList.getLast?.any Text.isBlank = false

variable {programs : Programs} {o : Settings} {s t : Session} {f : Files} {root : Place}
  {rel : Route} {file : String} {given : SystemText} {files : List String} {rels : List Route}

theorem Route.toList_path (rel : Route) :
    rel.path.toList = List.intercalate ['/'] (rel.map String.toList) :=
  Text.toList_joinWith '/' rel

theorem Route.encoded_path (rel : Route) : Text.encoded rel.path = Text.joinWith "/" rel.place :=
  Text.encoded_joinWith (show '/'.toNat < 128 by decide) rel

/-- The names of a place are those of the route, encoded. -/
theorem Route.map_toList_place (rel : Route) :
    rel.place.map String.toList = (rel.map String.toList).map Text.encodedChars := by
  rw [place, List.map_map, List.map_map]
  exact List.map_congr_left fun name _ => Text.toList_encoded name

/-- A piece names nothing exactly if its bytes name nothing. -/
theorem FilePath.Pieces.isIdle_encodedChars (p : List Char) :
    Pieces.isIdle (Text.encodedChars p) = Pieces.isIdle p := by
  have hdot : Text.encodedChars p = ['.'] ↔ p = ['.'] :=
    Text.encodedChars_eq_ascii_iff (by simp)
  have hempty : Text.encodedChars p = [] ↔ p = [] := Text.encodedChars_eq_ascii_iff nofun
  rw [Bool.eq_iff_iff, Pieces.isIdle, Pieces.isIdle]
  simp only [Bool.or_eq_true, List.isEmpty_iff, decide_eq_true_eq, hdot, hempty]

/-- The names of a place with no link on its way make a row. -/
theorem Node.Straight.isRow {tree : Node} {place : Place} (h : tree.Straight place)
    (hne : place ≠ []) : IsRow (place.map String.toList) :=
  ⟨mt List.map_eq_nil_iff.mp hne, h.not_idle, h.noSlash⟩

/-- Pieces that name something are their own core. -/
theorem FilePath.IsRow.core_eq {ps : List (List Char)} (h : IsRow ps) : Pieces.core ps = ps := by
  obtain ⟨front, back, hps, hfront, hback⟩ := Pieces.core_spec ps
  have hnone : ∀ {qs : List (List Char)}, qs ⊆ ps → (∀ q ∈ qs, Pieces.isIdle q = true) →
      qs = [] := by
    intro qs hsub hidle
    refine List.eq_nil_iff_forall_not_mem.mpr fun q hq => ?_
    exact absurd (h.not_idle q (hsub hq)) (by simp [hidle q hq])
  have hfront_nil : front = [] := hnone (by rw [hps]; simp) hfront
  have hback_nil : back = [] := hnone (by rw [hps]; simp) hback
  rw [hfront_nil, hback_nil, List.nil_append, List.append_nil] at hps
  exact hps.symm

/-! ### One file -/

namespace Files.Spells

/-- The place has no link on its way. -/
theorem straight (h : f.Spells root file rel) : f.root.Straight (root ++ rel.place) := by
  obtain ⟨cs, hcs⟩ : ∃ cs, (join f.here (Text.encoded file)).toList = '/' :: cs :=
    isAbsolute_iff.mp (isAbsolute_join (isAbsolute_iff.mpr ⟨_, toList_path f.cwd⟩))
  exact straight_of_place hcs h.leads

/-- The names of the place make a row. -/
theorem isRow_place (h : f.Spells root file rel) :
    IsRow ((root ++ rel.place).map String.toList) := by
  refine h.straight.isRow ?_
  simp [Route.place, h.ne_nil]

/-- The names below the root make a row. -/
theorem isRow (h : f.Spells root file rel) : IsRow (rel.map String.toList) := by
  have hrow := h.isRow_place
  rw [List.map_append, Route.map_toList_place] at hrow
  refine ⟨mt List.map_eq_nil_iff.mp h.ne_nil, fun p hp => ?_, fun p hp => ?_⟩
  · rw [← Pieces.isIdle_encodedChars]
    exact hrow.not_idle _ (List.mem_append_right _ (List.mem_map_of_mem hp))
  · rw [← Text.mem_encodedChars_iff (by decide)]
    exact hrow.noSlash _ (List.mem_append_right _ (List.mem_map_of_mem hp))

/-- Their encoded names make a row. -/
theorem isRow_encoded (h : f.Spells root file rel) : IsRow (rel.place.map String.toList) := by
  have hrow := h.isRow_place
  rw [List.map_append] at hrow
  refine ⟨?_, fun p hp => hrow.not_idle p (List.mem_append_right _ hp),
    fun p hp => hrow.noSlash p (List.mem_append_right _ hp)⟩
  simp [Route.place, h.ne_nil]

/-- **A path is rewritten to the names of its place.** -/
theorem relativeToRoot_eq (h : f.Spells root file rel) :
    relativeToRoot f root.path file = rel.path := by
  have hplace : f.canonical (join f.here (Text.encoded file)) =
      .ok (Place.path (root ++ rel.place)) :=
    canonical_eq_ok_iff.mpr ⟨_, h.leads, rfl⟩
  have hsplit : (List.intercalate ['/'] ((root ++ rel.place).map String.toList)).splitOn '/' =
      root.map String.toList ++ rel.place.map String.toList := by
    rw [h.isRow_place.splitOn, List.map_append]
  have htext : String.ofList (List.intercalate ['/'] (rel.place.map String.toList)) =
      Text.encoded rel.path := by
    rw [Route.encoded_path, ← Text.toList_joinWith, String.ofList_toList]
  have hbelow : below? root.path (Place.path (root ++ rel.place)) =
      some (Text.encoded rel.path) := by
    rw [below?_path h.straight.of_append (toList_path (root ++ rel.place)), hsplit,
      Pieces.dropNames_append h.straight.of_append.not_idle, Option.map_some,
      h.isRow_encoded.core_eq, htext]
  rw [relativeToRoot_of_below (found_of_ok hplace ▸ hbelow), Text.decoded_encoded]

/-- The names keep their form when the scopes are read. -/
theorem normalize_eq (h : f.Spells root file rel) :
    normalize rel.path.toList = some rel.path.toList := by
  have htrim := Text.trimChars_eq_self h.no_blank_before h.no_blank_behind
  have hback := h.no_backslash
  rw [Route.toList_path] at htrim hback ⊢
  exact h.isRow.normalize_eq htrim hback

/-- Their directory is the directory of the file. -/
theorem dirOf_eq (h : f.Spells root file rel) :
    Scopes.dirOf rel.path.toList = rel.directory := by
  rw [Scopes.dirOf, Route.toList_path, h.isRow.parent_eq, Route.directory, ← List.map_dropLast]
  by_cases hdir : rel.dropLast = []
  · rw [if_pos hdir, if_pos (by rw [hdir]; rfl)]
  · rw [if_neg hdir, if_neg (mt List.map_eq_nil_iff.mp hdir), ← Route.toList_path,
      String.ofList_toList]

end Files.Spells

/-! ### All files -/

/-- **The scopes of files are those of the places that they lead to.** -/
theorem ofFiles_relativeToRoot (h : List.Forall₂ (f.Spells root) files rels) :
    Scopes.ofFiles (files.map (relativeToRoot f root.path)) = Scopes.below rels := by
  have hdir : ∀ rel ∈ rels, Scopes.dirOf rel.path.toList = rel.directory := by
    induction h with
    | nil => exact fun _ hrel => absurd hrel List.not_mem_nil
    | cons hfile _ ih => exact List.forall_mem_cons.mpr ⟨hfile.dirOf_eq, ih⟩
  have hnormal : Scopes.normalized (files.map (relativeToRoot f root.path)) =
      rels.map fun rel => rel.path.toList := by
    rw [Scopes.normalized, List.filterMap_map]
    induction h with
    | nil => rfl
    | cons hfile _ ih =>
        refine (List.filterMap_cons_some ?_).trans
          (congrArg _ (ih (List.forall_mem_cons.mp hdir).2))
        rw [Function.comp_apply, hfile.relativeToRoot_eq, hfile.normalize_eq]
  rw [Scopes.ofFiles_eq, hnormal, Scopes.below, List.filter_map, List.map_map, List.map_map]
  congr 2
  · exact List.map_congr_left fun rel hrel => hdir rel (List.mem_of_mem_filter hrel)
  · exact List.map_congr_left hdir

/-! ### The command line -/

/-- The scopes of files, seen from a root. -/
def scopesFrom (f : Files) (root : SystemText) (files : List String) : Scopes :=
  .ofFiles (files.map (relativeToRoot f ((f.canonical root).toOption.getD root)))

/-- Without files there are no scopes, and the root is not asked for. -/
theorem scopesOf_nil (programs : Programs) (o : Settings) (s : Session) :
    scopesOf programs o [] s = .ok .none s :=
  rfl

/-- With files the root is asked for, and the scopes are read off the files from there. -/
theorem scopesOf_of_found (hroot : findRoot programs o s = (.ok given, t)) (hne : files ≠ []) :
    scopesOf programs o files s = .ok (scopesFrom t.files given files) t := by
  have hstep : Action.ofStep .dispatch (findRoot programs o) s = .ok given t :=
    Action.ofStep_eq_ok_iff.mpr hroot
  have hget : (get : Action Session) t = .ok t t := rfl
  rw [scopesOf, if_neg (mt List.isEmpty_iff.mp hne), Action.bind_of_ok hstep,
    Action.bind_of_ok hget]
  rfl

/-- With files but without a root there are no scopes. -/
theorem scopesOf_of_lost {e : DispatchError} (hroot : findRoot programs o s = (.error e, t))
    (hne : files ≠ []) : scopesOf programs o files s = .error (.dispatch e) t := by
  have hstep : Action.ofStep .dispatch (findRoot programs o) s = .error (.dispatch e) t := by
    rw [Action.ofStep, hroot]
  rw [scopesOf, if_neg (mt List.isEmpty_iff.mp hne)]
  exact Action.bind_of_error hstep

/-- The scopes of files, the root being a place of the tree. -/
theorem scopesOf_of_root (hroot : findRoot programs o s = (.ok given, t))
    (hplace : t.files.place given true = .ok root) (hne : files ≠ []) :
    scopesOf programs o files s =
      .ok (Scopes.ofFiles (files.map (relativeToRoot t.files root.path))) t := by
  have hcanonical : t.files.canonical given = .ok root.path :=
    Files.canonical_eq_ok_iff.mpr ⟨root, hplace, rfl⟩
  rw [scopesOf_of_found hroot hne, scopesFrom, hcanonical]
  rfl

/-- **Scopes do not depend on how files are spelled.** When the root is found and each file of a
command line leads, in any way, to a place below it, the scopes are the distinct directories of
these places in first-seen order, and for packages the same with Go files only. So they are the
same for all spellings of these files, from whatever directory. -/
theorem scopesOf_spelled (hroot : findRoot programs o s = (.ok given, t))
    (hplace : t.files.place given true = .ok root)
    (hfiles : List.Forall₂ (t.files.Spells root) files rels) :
    (∃ t', scopesOf programs o files s = .ok (Scopes.below rels) t') ∧
      ∀ cwd files', List.Forall₂ ((t.files.inDir cwd).Spells root) files' rels →
        Scopes.ofFiles (files'.map (relativeToRoot (t.files.inDir cwd) root.path)) =
          Scopes.ofFiles (files.map (relativeToRoot t.files root.path)) := by
  refine ⟨?_, fun cwd files' hfiles' => ?_⟩
  · by_cases hne : files = []
    · subst hne
      obtain rfl := List.forall₂_nil_left_iff.mp hfiles
      exact ⟨s, rfl⟩
    · rw [scopesOf_of_root hroot hplace hne, ofFiles_relativeToRoot hfiles]
      exact ⟨t, rfl⟩
  · rw [ofFiles_relativeToRoot hfiles', ofFiles_relativeToRoot hfiles]

/-! ### Two spellings -/

/-- The choices of a command line that gives the root only. -/
def rootedSettings (root : String) : Settings :=
  ⟨false, false, none, some root, "text", false, none, none, none, false⟩

/-- Three files of which one is a link to another, named in a package, and the same files named in
another directory. -/
theorem scopesOf_spelled_twice :
    (∃ t, scopesOf (fun x _ => (.ok .overran, x.files)) (rootedSettings "/work")
        ["../link.go", "/work/other/x.go", "../main.go"] ⟨packageView, [], false, []⟩ =
          .ok ⟨["repo", "other"], ["repo", "other"]⟩ t) ∧
      Scopes.ofFiles (["../repo/main.go", "x.go", "./../repo/main.go"].map
          (relativeToRoot (packageView.inDir ["work", "other"]) "/work")) =
        Scopes.ofFiles (["../link.go", "/work/other/x.go", "../main.go"].map
          (relativeToRoot packageView "/work")) := by
  have hspells : ∀ {f : Files} {file : String} {rel : Route}, Text.isAscii file = true →
      f.place (join f.here file) true = .ok (["work"] ++ rel) →
        rel ∈ [["repo", "main.go"], ["other", "x.go"]] → f.Spells ["work"] file rel := by
    intro f file rel hascii hplace hrel
    have hleads : rel.place = rel → f.place (join f.here (Text.encoded file)) true =
        .ok (["work"] ++ rel.place) := by
      intro hsame
      rw [Text.encoded_of_ascii hascii, hplace, hsame]
    simp only [List.mem_cons, List.not_mem_nil, or_false] at hrel
    obtain rfl | rfl := hrel <;>
      exact ⟨hleads (by decide +kernel), nofun, by decide, by decide, by decide⟩
  have hroot : packageView.place "/work" true = .ok ["work"] := by
    rw [Files.place_of_walk (show _ = '/' :: "work".toList from rfl) (by decide) (by decide)]
    cbv
  have hfiles : List.Forall₂ (packageView.Spells ["work"])
      ["../link.go", "/work/other/x.go", "../main.go"]
      [["repo", "main.go"], ["other", "x.go"], ["repo", "main.go"]] := by
    refine .cons (hspells (by decide +kernel) ?_ (by decide))
      (.cons (hspells (by decide +kernel) ?_ (by decide))
        (.cons (hspells (by decide +kernel) ?_ (by decide)) .nil))
    · rw [Files.place_of_walk (show _ = '/' :: "work/repo/pkg/../link.go".toList by decide)
        (by decide) (by decide)]
      exact (walk_packageView_link []).trans Node.walk_nil
    · rw [Files.place_of_walk (show _ = '/' :: "work/other/x.go".toList by decide)
        (by decide) (by decide)]
      cbv
    · rw [Files.place_of_walk (show _ = '/' :: "work/repo/pkg/../main.go".toList by decide)
        (by decide) (by decide)]
      cbv
  have hfiles' : List.Forall₂ ((packageView.inDir ["work", "other"]).Spells ["work"])
      ["../repo/main.go", "x.go", "./../repo/main.go"]
      [["repo", "main.go"], ["other", "x.go"], ["repo", "main.go"]] := by
    refine .cons (hspells (by decide +kernel) ?_ (by decide))
      (.cons (hspells (by decide +kernel) ?_ (by decide))
        (.cons (hspells (by decide +kernel) ?_ (by decide)) .nil))
    · rw [Files.place_of_walk (show _ = '/' :: "work/other/../repo/main.go".toList by decide)
        (by decide) (by decide)]
      cbv
    · rw [Files.place_of_walk (show _ = '/' :: "work/other/x.go".toList by decide)
        (by decide) (by decide)]
      cbv
    · rw [Files.place_of_walk (show _ = '/' :: "work/other/./../repo/main.go".toList by decide)
        (by decide) (by decide)]
      cbv
  have hfound : findRoot (fun x _ => (.ok .overran, x.files)) (rootedSettings "/work")
      ⟨packageView, [], false, []⟩ = (.ok "/work", ⟨packageView, [], false, []⟩) := rfl
  obtain ⟨hrun, hsame⟩ := scopesOf_spelled hfound hroot hfiles
  have hscopes : Scopes.below [["repo", "main.go"], ["other", "x.go"], ["repo", "main.go"]] =
      ⟨["repo", "other"], ["repo", "other"]⟩ := by
    decide
  rw [← hscopes]
  exact ⟨hrun, hsame ["work", "other"] _ hfiles'⟩

/-! ### Names that are no UTF-8 -/

/-- Two files in different directories, whose names are no UTF-8 and are shown by the same text,
give one scope. -/
theorem scopes_bytes_merged :
    bytesView.place (join bytesView.here (Text.encoded "a/x.go")) true =
        .ok ["repo", "\xff", "x.go"] ∧
      bytesView.place (join bytesView.here (Text.encoded "b/x.go")) true =
        .ok ["repo", "\xfe", "x.go"] ∧
      ∃ t, scopesOf (fun x _ => (.ok .overran, x.files)) (rootedSettings "/repo")
        ["a/x.go", "b/x.go"] ⟨bytesView, [], false, []⟩ = .ok ⟨["\ufffd"], ["\ufffd"]⟩ t := by
  obtain ⟨ha, hb⟩ := place_bytesView
  have hhere : bytesView.here = "/repo" := by decide
  have hfirst : Text.encoded "a/x.go" = "a/x.go" := Text.encoded_of_ascii (by decide +kernel)
  have hsecond : Text.encoded "b/x.go" = "b/x.go" := Text.encoded_of_ascii (by decide +kernel)
  have hjoin : join "/repo" "a/x.go" = "/repo/a/x.go" ∧ join "/repo" "b/x.go" = "/repo/b/x.go" := by
    decide
  have hroot : bytesView.place "/repo" true = .ok ["repo"] := by
    rw [Files.place_of_walk (show _ = '/' :: "repo".toList from rfl) (by decide) (by decide)]
    cbv
  have hfound : findRoot (fun x _ => (.ok .overran, x.files)) (rootedSettings "/repo")
      ⟨bytesView, [], false, []⟩ = (.ok "/repo", ⟨bytesView, [], false, []⟩) := rfl
  have hshown : Text.decoded "\xff/x.go" = "\ufffd/x.go" ∧
      Text.decoded "\xfe/x.go" = "\ufffd/x.go" := by
    decide +kernel
  have hbelow : below? "/repo" "/repo/\xff/x.go" = some "\xff/x.go" ∧
      below? "/repo" "/repo/\xfe/x.go" = some "\xfe/x.go" := by
    decide
  have hfiles : bytesView.found "a/x.go" = "/repo/\xff/x.go" ∧
      bytesView.found "b/x.go" = "/repo/\xfe/x.go" := by
    constructor
    · exact Files.found_of_ok (Files.canonical_eq_ok_iff.mpr
        ⟨_, by rw [hhere, hfirst, hjoin.1, ha], by decide⟩)
    · exact Files.found_of_ok (Files.canonical_eq_ok_iff.mpr
        ⟨_, by rw [hhere, hsecond, hjoin.2, hb], by decide⟩)
  have hrel : relativeToRoot bytesView "/repo" "a/x.go" = "\ufffd/x.go" ∧
      relativeToRoot bytesView "/repo" "b/x.go" = "\ufffd/x.go" := by
    rw [relativeToRoot_of_below (hfiles.1 ▸ hbelow.1), hshown.1,
      relativeToRoot_of_below (hfiles.2 ▸ hbelow.2), hshown.2]
    exact ⟨rfl, rfl⟩
  rw [hhere, hfirst, hsecond, hjoin.1, hjoin.2]
  have hpath : Place.path ["repo"] = "/repo" := by decide
  refine ⟨ha, hb, ⟨bytesView, [], false, []⟩, ?_⟩
  rw [scopesOf_of_root hfound hroot (List.cons_ne_nil _ _), List.map_cons, List.map_singleton,
    hpath, hrel.1, hrel.2]
  rfl

end LintVerdict
