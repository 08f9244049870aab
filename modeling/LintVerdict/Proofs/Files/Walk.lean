import LintVerdict.Files.Tree
import LintVerdict.Proofs.Text.Split

/-!
# Where names lead

A walk takes names one by one: one that says nothing is passed over, two dots go up, a link is
replaced by its target, and any other name goes down. Its result has no link on its way, and
names without links on their way lead to themselves.

## Main definitions

* `Node.Leads`: a walk that arrives, name by name.
* `Node.Straight`: a place with no link on its way.

## Main results

* `walk_eq_ok_iff`: the walks that arrive.
* `Node.walk_unfollowed`: when it matters whether the last link is followed.
* `Node.Leads.straight`: a walk arrives at a place with no link on its way.
* `Node.Leads.walk_append`: a walk goes on from where it has arrived.
* `Node.Straight.walk_append`: names with no link on their way lead to the place that they name.
-/

namespace LintVerdict

/-- A name that can stand in a directory: it is not empty, no dot and no two dots, and not too
long. -/
structure IsName (name : String) : Prop where
  ne_empty : name ≠ ""
  ne_dot : name ≠ "."
  ne_up : name ≠ ".."
  length_le : name.length ≤ nameLimit

/-- A name that says nothing: it is empty or a dot. -/
def IsIdle (name : String) : Prop := name = "" ∨ name = "."

/-- A name that passes the tests of a walk can stand in a directory. -/
theorem isName_of_not {name : String} (hidle : ¬(decide (name = "") || decide (name = ".")) = true)
    (hup : ¬name = "..") (hlong : ¬nameLimit < name.length) : IsName name := by
  simp only [Bool.or_eq_true, decide_eq_true_eq, not_or] at hidle
  exact ⟨hidle.1, hidle.2, hup, Nat.not_lt.mp hlong⟩

namespace Node

variable {root : Node} {links : Nat} {follow : Bool} {here place : Place} {name : String}
  {names more rest : List String} {entries : List (String × Node)} {e : String × Node}

/-- A walk that arrives: from a place, names lead to a place through at most so many links. -/
inductive Leads (root : Node) : Nat → Place → List String → Place → Prop
  | done {links : Nat} {here : Place} : Leads root links here [] here
  | idle {links : Nat} {here place : Place} {name : String} {rest : List String}
      {entries : List (String × Node)} :
      root.get? here = some (.dir entries) → IsIdle name → Leads root links here rest place →
      Leads root links here (name :: rest) place
  | up {links : Nat} {here place : Place} {rest : List String}
      {entries : List (String × Node)} :
      root.get? here = some (.dir entries) → Leads root links here.dropLast rest place →
      Leads root links here (".." :: rest) place
  | link {links : Nat} {here place : Place} {name target : String} {rest : List String}
      {entries : List (String × Node)} {e : String × Node} :
      root.get? here = some (.dir entries) → IsName name →
      entries.find? (fun e => e.1 = name) = some e → e.2 = .link target →
      Leads root links (if FilePath.isAbsolute target then [] else here)
        (Text.splitAt '/' target ++ rest) place →
      Leads root (links + 1) here (name :: rest) place
  | down {links : Nat} {here place : Place} {name : String} {rest : List String}
      {entries : List (String × Node)} {e : String × Node} :
      root.get? here = some (.dir entries) → IsName name →
      entries.find? (fun e => e.1 = name) = some e → (∀ target, e.2 ≠ .link target) →
      Leads root links (here ++ [name]) rest place →
      Leads root links here (name :: rest) place

/-- From a place, a name leads down to what is not a link. -/
structure Descends (root : Node) (here : Place) (name : String) : Prop where
  isName : IsName name
  noSlash : '/' ∉ name.toList
  entry : ∃ entries e, root.get? here = some (.dir entries) ∧
    entries.find? (fun e => e.1 = name) = some e ∧ ∀ target, e.2 ≠ .link target

/-- A place with no link on its way. -/
def Straight (root : Node) (place : Place) : Prop :=
  ∀ here name rest, place = here ++ name :: rest → root.Descends here name

/-! ### Places in a tree -/

/-- What is behind a place is behind the node that is there. -/
theorem get?_append (n : Node) (here below : Place) :
    n.get? (here ++ below) = (n.get? here).bind fun m => m.get? below := by
  induction here generalizing n with
  | nil => rfl
  | cons first here ih =>
      rw [List.cons_append, get?, get?]
      cases n.entry? first with
      | none => rfl
      | some m => exact ih m

theorem get?_concat (n : Node) (here : Place) (name : String) :
    n.get? (here ++ [name]) = (n.get? here).bind fun m => Node.entry? m name := by
  rw [get?_append]
  refine congrArg _ (funext fun m => ?_)
  rw [get?]
  cases m.entry? name <;> rfl

/-- An entry of a directory is at the place of its name. -/
theorem get?_of_entry (hdir : root.get? here = some (.dir entries))
    (he : entries.find? (fun e => e.1 = name) = some e) :
    root.get? (here ++ [name]) = some e.2 := by
  rw [get?_concat, hdir, Option.bind_some, entry?]
  exact congrArg (Option.map Prod.snd) he

/-- What is in a directory is an entry of it. -/
theorem exists_entry {n : Node} (hdir : root.get? here = some (.dir entries))
    (hn : root.get? (here ++ [name]) = some n) :
    ∃ e, entries.find? (fun e => e.1 = name) = some e ∧ e.2 = n := by
  rw [get?_concat, hdir, Option.bind_some, entry?] at hn
  exact Option.map_eq_some_iff.mp hn

/-! ### One name -/

theorem walk_nil : root.walk links follow here [] = .ok here := by
  rw [walk]

theorem walk_idle (hdir : root.get? here = some (.dir entries)) (hname : IsIdle name) :
    root.walk links follow here (name :: rest) = root.walk links follow here rest := by
  rw [walk, hdir]
  exact if_pos (by simpa [IsIdle] using hname)

theorem walk_up (hdir : root.get? here = some (.dir entries)) :
    root.walk links follow here (".." :: rest) = root.walk links follow here.dropLast rest := by
  rw [walk, hdir]
  exact (if_neg (by decide)).trans (if_pos rfl)

theorem walk_name (hdir : root.get? here = some (.dir entries)) (hname : IsName name) :
    root.walk links follow here (name :: rest) =
      match entries.find? (fun e => e.1 = name) with
      | none => .error .notFound
      | some (_, .link target) =>
        if rest.isEmpty && !follow then .ok (here ++ [name])
        else
          match links with
          | 0 => .error .linkLoop
          | links + 1 =>
            root.walk links follow (if FilePath.isAbsolute target then [] else here)
              (Text.splitAt '/' target ++ rest)
      | some _ => root.walk links follow (here ++ [name]) rest := by
  have hidle : ¬(decide (name = "") || decide (name = ".")) = true := by
    simp [hname.ne_empty, hname.ne_dot]
  have hshort : ¬nameLimit < name.length := Nat.not_lt.mpr hname.length_le
  rw [walk, hdir]
  exact (if_neg hidle).trans ((if_neg hname.ne_up).trans (if_neg hshort))

theorem walk_link {target : String} (hdir : root.get? here = some (.dir entries))
    (hname : IsName name) (he : entries.find? (fun e => e.1 = name) = some e)
    (hlink : e.2 = .link target) :
    root.walk (links + 1) true here (name :: rest) =
      root.walk links true (if FilePath.isAbsolute target then [] else here)
        (Text.splitAt '/' target ++ rest) := by
  obtain ⟨n, node⟩ := e
  obtain rfl : node = .link target := hlink
  rw [walk_name hdir hname, he]
  exact if_neg (by simp)

theorem walk_down (hdir : root.get? here = some (.dir entries)) (hname : IsName name)
    (he : entries.find? (fun e => e.1 = name) = some e) (hlink : ∀ target, e.2 ≠ .link target) :
    root.walk links follow here (name :: rest) = root.walk links follow (here ++ [name]) rest := by
  obtain ⟨n, node⟩ := e
  rw [walk_name hdir hname, he]
  cases node with
  | link target => exact absurd rfl (hlink target)
  | file _ _ => rfl
  | dir _ => rfl

theorem walk_tooLong (hdir : root.get? here = some (.dir entries))
    (hidle : ¬(decide (name = "") || decide (name = ".")) = true) (hup : ¬name = "..")
    (hlong : nameLimit < name.length) :
    root.walk links follow here (name :: rest) = .error .nameTooLong := by
  rw [walk, hdir]
  exact (if_neg hidle).trans ((if_neg hup).trans (if_pos hlong))

theorem walk_stuck (h : ∀ entries, root.get? here ≠ some (.dir entries)) :
    root.walk links follow here (name :: rest) = .error .notDirectory := by
  rw [walk]
  split
  · next entries hdir => exact absurd hdir (h entries)
  · rfl

/-- A name that says nothing makes no difference before another name. -/
theorem walk_idle_of_ne_nil (hname : IsIdle name) (hrest : rest ≠ []) :
    root.walk links true here (name :: rest) = root.walk links true here rest := by
  by_cases hdir : ∃ entries, root.get? here = some (.dir entries)
  · exact walk_idle hdir.choose_spec hname
  · obtain ⟨n, more, rfl⟩ := List.exists_cons_of_ne_nil hrest
    have hstuck : ∀ entries, root.get? here ≠ some (.dir entries) :=
      fun entries h => hdir ⟨entries, h⟩
    rw [walk_stuck hstuck, walk_stuck hstuck]

/-- **A walk goes on from where it has arrived**, with the links that are left. -/
theorem Leads.walk_append (h : Leads root links here names place) :
    ∃ left, ∀ more, root.walk links true here (names ++ more) = root.walk left true place more := by
  induction h with
  | @done links here => exact ⟨links, fun _ => rfl⟩
  | idle hdir hname _ ih =>
      obtain ⟨left, hleft⟩ := ih
      exact ⟨left, fun more => (walk_idle hdir hname).trans (hleft more)⟩
  | up hdir _ ih =>
      obtain ⟨left, hleft⟩ := ih
      exact ⟨left, fun more => (walk_up hdir).trans (hleft more)⟩
  | link hdir hname he hlink _ ih =>
      obtain ⟨left, hleft⟩ := ih
      refine ⟨left, fun more => (walk_link hdir hname he hlink).trans ?_⟩
      rw [← hleft more, List.append_assoc]
      rfl
  | down hdir hname he hlink _ ih =>
      obtain ⟨left, hleft⟩ := ih
      exact ⟨left, fun more => (walk_down hdir hname he hlink).trans (hleft more)⟩

theorem leads_of_walk (h : root.walk links true here names = .ok place) :
    Leads root links here names place := by
  induction links, here, names using walk.induct root true with
  | case1 links here =>
      rw [walk_nil] at h
      exact Except.ok.inj h ▸ .done
  | case2 links here name rest entries hdir hidle ih =>
      have hname : IsIdle name := by simpa [IsIdle] using hidle
      rw [walk_idle hdir hname] at h
      exact .idle hdir hname (ih h)
  | case3 links here rest entries hdir _ ih =>
      rw [walk_up hdir] at h
      exact .up hdir (ih h)
  | case4 links here name rest entries hdir hidle hup hlong =>
      rw [walk_tooLong hdir hidle hup hlong] at h
      exact absurd h nofun
  | case5 links here name rest entries hdir hidle hup hlong hnone =>
      rw [walk_name hdir (isName_of_not hidle hup hlong), hnone] at h
      exact absurd h nofun
  | case6 _ _ _ _ _ _ _ _ _ _ _ _ hlast => simp at hlast
  | case7 here name rest entries hdir hidle hup hlong n target he _ =>
      rw [walk_name hdir (isName_of_not hidle hup hlong), he] at h
      simp at h
  | case8 here name rest entries hdir hidle hup hlong n target he _ links ih =>
      have hname := isName_of_not hidle hup hlong
      rw [walk_link hdir hname he rfl] at h
      refine .link hdir hname he rfl (ih ?_)
      simpa using h
  | case9 links here name rest entries hdir hidle hup hlong e hlink he ih =>
      have hname := isName_of_not hidle hup hlong
      have hlink : ∀ target, e.2 ≠ .link target :=
        fun target heq => hlink e.1 target (by rw [← heq])
      rw [walk_down hdir hname he hlink] at h
      exact .down hdir hname he hlink (ih h)
  | case10 links here name rest hstuck =>
      rw [walk_stuck hstuck] at h
      exact absurd h nofun

/-- **The walks that arrive.** -/
theorem walk_eq_ok_iff :
    root.walk links true here names = .ok place ↔ Leads root links here names place := by
  refine ⟨leads_of_walk, fun h => ?_⟩
  obtain ⟨left, hleft⟩ := h.walk_append
  rw [← List.append_nil names, hleft, walk_nil]

/-- Whether the last link is followed matters only where a link stands last. The walk that does not
follow it ends at the link. -/
theorem walk_unfollowed (root : Node) (links : Nat) (here : Place) (names : List String) :
    root.walk links false here names = root.walk links true here names ∨
      ∃ place target, root.walk links false here names = .ok place ∧
        root.get? place = some (.link target) := by
  induction links, here, names using walk.induct root false with
  | case1 links here => exact Or.inl (walk_nil.trans walk_nil.symm)
  | case2 links here name rest entries hdir hidle ih =>
      have hname : IsIdle name := by simpa [IsIdle] using hidle
      rwa [walk_idle hdir hname, walk_idle hdir hname]
  | case3 links here rest entries hdir _ ih => rwa [walk_up hdir, walk_up hdir]
  | case4 links here name rest entries hdir hidle hup hlong =>
      rw [walk_tooLong hdir hidle hup hlong, walk_tooLong hdir hidle hup hlong]
      exact Or.inl rfl
  | case5 links here name rest entries hdir hidle hup hlong hnone =>
      have hname := isName_of_not hidle hup hlong
      rw [walk_name hdir hname, walk_name hdir hname, hnone]
      exact Or.inl rfl
  | case6 links here name rest entries hdir hidle hup hlong n target he hlast =>
      have hname := isName_of_not hidle hup hlong
      refine Or.inr ⟨here ++ [name], target, ?_, get?_of_entry hdir he⟩
      rw [walk_name hdir hname, he]
      exact if_pos hlast
  | case7 here name rest entries hdir hidle hup hlong n target he hlast =>
      have hname := isName_of_not hidle hup hlong
      rw [walk_name hdir hname, walk_name hdir hname, he]
      exact Or.inl ((if_neg hlast).trans (if_neg (by simp)).symm)
  | case8 here name rest entries hdir hidle hup hlong n target he hlast links ih =>
      have hname := isName_of_not hidle hup hlong
      have hunfollowed : root.walk (links + 1) false here (name :: rest) =
          root.walk links false (if FilePath.isAbsolute target then [] else here)
            (Text.splitAt '/' target ++ rest) := by
        rw [walk_name hdir hname, he]
        exact if_neg hlast
      rw [hunfollowed, walk_link hdir hname he rfl]
      simpa using ih
  | case9 links here name rest entries hdir hidle hup hlong e hlink he ih =>
      have hname := isName_of_not hidle hup hlong
      have hlink : ∀ target, e.2 ≠ .link target :=
        fun target heq => hlink e.1 target (by rw [← heq])
      rwa [walk_down hdir hname he hlink, walk_down hdir hname he hlink]
  | case10 links here name rest hstuck =>
      rw [walk_stuck hstuck, walk_stuck hstuck]
      exact Or.inl rfl

/-- A name that says nothing makes no difference to a walk that goes on behind it. -/
theorem walk_append_idle (hidle : IsIdle name) (hmore : more ≠ []) :
    root.walk links true here (names ++ name :: more) =
      root.walk links true here (names ++ more) := by
  induction links, here, names using walk.induct root true with
  | case1 links here => exact walk_idle_of_ne_nil hidle hmore
  | case2 links here n rest entries hdir hn ih =>
      have hn : IsIdle n := by simpa [IsIdle] using hn
      rw [List.cons_append, List.cons_append, walk_idle hdir hn, walk_idle hdir hn, ih]
  | case3 links here rest entries hdir _ ih =>
      rw [List.cons_append, List.cons_append, walk_up hdir, walk_up hdir, ih]
  | case4 links here n rest entries hdir hn hup hlong =>
      rw [List.cons_append, List.cons_append, walk_tooLong hdir hn hup hlong,
        walk_tooLong hdir hn hup hlong]
  | case5 links here n rest entries hdir hn hup hlong hnone =>
      have hn := isName_of_not hn hup hlong
      rw [List.cons_append, List.cons_append, walk_name hdir hn, walk_name hdir hn, hnone]
  | case6 _ _ _ _ _ _ _ _ _ _ _ _ hlast => simp at hlast
  | case7 here n rest entries hdir hn hup hlong m target he _ =>
      have hn := isName_of_not hn hup hlong
      rw [List.cons_append, List.cons_append, walk_name hdir hn, walk_name hdir hn, he]
      simp
  | case8 here n rest entries hdir hn hup hlong m target he _ links ih =>
      have hn := isName_of_not hn hup hlong
      rw [List.cons_append, List.cons_append, walk_link hdir hn he rfl, walk_link hdir hn he rfl,
        ← List.append_assoc, ← List.append_assoc]
      exact ih
  | case9 links here n rest entries hdir hn hup hlong e hlink he ih =>
      have hn := isName_of_not hn hup hlong
      have hlink : ∀ target, e.2 ≠ .link target :=
        fun target heq => hlink e.1 target (by rw [← heq])
      rw [List.cons_append, List.cons_append, walk_down hdir hn he hlink,
        walk_down hdir hn he hlink, ih]
  | case10 links here n rest hstuck =>
      rw [List.cons_append, List.cons_append, walk_stuck hstuck, walk_stuck hstuck]

theorem straight_nil : root.Straight [] := by
  intro here name rest h
  simp at h

theorem Straight.of_append {behind : Place} (h : root.Straight (here ++ behind)) :
    root.Straight here := by
  intro before name rest heq
  exact h before name (rest ++ behind) (by rw [heq, List.append_assoc, List.cons_append])

theorem Straight.dropLast (h : root.Straight here) : root.Straight here.dropLast := by
  obtain rfl | ⟨front, name, rfl⟩ := List.eq_nil_or_concat here
  · exact h
  · rw [List.concat_eq_append] at h ⊢
    rw [List.dropLast_concat]
    exact h.of_append

theorem Straight.concat (h : root.Straight here) (hname : root.Descends here name) :
    root.Straight (here ++ [name]) := by
  intro before n rest heq
  obtain rfl | ⟨front, last, rfl⟩ := List.eq_nil_or_concat rest
  · obtain ⟨rfl, hn⟩ := List.append_inj' heq rfl
    obtain rfl := List.singleton_inj.mp hn
    exact hname
  · have hsplit : here ++ [name] = (before ++ n :: front) ++ [last] := by
      rw [heq, List.concat_eq_append, List.append_assoc, List.cons_append]
    obtain ⟨hhere, -⟩ := List.append_inj' hsplit rfl
    exact h before n front hhere

/-- **A walk arrives at a place with no link on its way.** -/
theorem Leads.straight (h : Leads root links here names place) (hhere : root.Straight here)
    (hslash : ∀ n ∈ names, '/' ∉ n.toList) : root.Straight place := by
  induction h with
  | done => exact hhere
  | idle _ _ _ ih => exact ih hhere fun n hn => hslash n (List.mem_cons_of_mem _ hn)
  | up _ _ ih => exact ih hhere.dropLast fun n hn => hslash n (List.mem_cons_of_mem _ hn)
  | @link links here place name target rest entries e _ _ _ _ _ ih =>
      refine ih ?_ fun n hn => ?_
      · split
        · exact straight_nil
        · exact hhere
      · obtain hn | hn := List.mem_append.mp hn
        · rw [Text.splitAt, Text.splitChars_eq_splitOn, List.mem_map] at hn
          obtain ⟨piece, hpiece, rfl⟩ := hn
          rw [String.toList_ofList]
          exact Text.notMem_of_mem_splitOn hpiece
        · exact hslash n (List.mem_cons_of_mem _ hn)
  | @down links here place name rest entries e hdir hname he hlink _ ih =>
      have hdown : root.Descends here name :=
        ⟨hname, hslash name List.mem_cons_self, entries, e, hdir, he, hlink⟩
      exact ih (hhere.concat hdown) fun n hn => hslash n (List.mem_cons_of_mem _ hn)

theorem Descends.walk (h : root.Descends here name) :
    root.walk links true here (name :: rest) = root.walk links true (here ++ [name]) rest := by
  obtain ⟨entries, e, hdir, he, hlink⟩ := h.entry
  exact walk_down hdir h.isName he hlink

end Node

end LintVerdict
