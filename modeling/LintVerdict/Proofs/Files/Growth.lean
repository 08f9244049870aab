import LintVerdict.Files.Change
import LintVerdict.Proofs.Files.Walk

/-!
# Trees that only grow

Where files, links and directories are only added, everything stays in its place. A path that led
somewhere leads there still, and a program that was found is a program still.

## Main definitions

* `Node.Keeps`: a file or a link as it was, or a directory with any entries.
* `Node.Grows`, `Files.Grows`: everything stays in its place.

## Main results

* `Node.Leads.grows`: a walk that arrives does so in the grown tree.
* `Files.Grows.isProgram`: a program stays one.
* `Node.grows_replace`: a new node at a free place makes a tree grow.
-/

namespace LintVerdict

namespace Node

/-- What is left of a node where nothing is taken away: a file and a link are as they were, and a
directory is one with any entries. -/
inductive Keeps : Node → Node → Prop
  | file {content : ByteArray} {executable : Bool} :
      Keeps (file content executable) (file content executable)
  | link {target : String} : Keeps (link target) (link target)
  | dir {entries entries' : List (String × Node)} : Keeps (dir entries) (dir entries')

/-- What is at a place stays there. -/
def Grows (n m : Node) : Prop :=
  ∀ place k, n.get? place = some k → ∃ k', m.get? place = some k' ∧ k.Keeps k'

variable {n m k l : Node} {links : Nat} {here place : Place} {name target : String}
  {names : List String} {entries : List (String × Node)} {e : String × Node}

namespace Keeps

theorem refl (n : Node) : n.Keeps n := by
  cases n <;> constructor

theorem trans (h : n.Keeps m) (h' : m.Keeps k) : n.Keeps k := by
  cases h <;> cases h' <;> constructor

/-- A directory stays one. -/
theorem exists_dir (h : (Node.dir entries).Keeps m) : ∃ entries', m = .dir entries' := by
  cases h with
  | dir => exact ⟨_, rfl⟩

/-- A link stays as it is. -/
theorem eq_link (h : (Node.link target).Keeps m) : m = .link target := by
  cases h
  rfl

/-- Nothing becomes a link. -/
theorem ne_link (h : n.Keeps m) (hlink : ∀ target, n ≠ .link target) (target : String) :
    m ≠ .link target := by
  cases h with
  | link => exact absurd rfl (hlink _)
  | _ => exact nofun

/-- A program stays one. -/
theorem isProgram (h : n.Keeps m) (hprogram : n.isProgram = true) : m.isProgram = true := by
  cases h with
  | file => exact hprogram
  | _ => exact hprogram

end Keeps

namespace Grows

theorem refl (n : Node) : n.Grows n := fun _ k hk => ⟨k, hk, .refl k⟩

theorem trans (h : n.Grows m) (h' : m.Grows k) : n.Grows k := by
  intro place l hl
  obtain ⟨l', hl', hkeeps⟩ := h place l hl
  obtain ⟨l'', hl'', hkeeps'⟩ := h' place l' hl'
  exact ⟨l'', hl'', hkeeps.trans hkeeps'⟩

theorem exists_dir (h : n.Grows m) (hdir : n.get? here = some (.dir entries)) :
    ∃ entries', m.get? here = some (.dir entries') := by
  obtain ⟨k, hk, hkeeps⟩ := h here _ hdir
  obtain ⟨entries', rfl⟩ := hkeeps.exists_dir
  exact ⟨entries', hk⟩

end Grows

/-! ### Walks -/

/-- What is found in a directory is found there when the tree has grown. -/
theorem Grows.exists_entry (h : n.Grows m) (hdir : n.get? here = some (.dir entries))
    (he : entries.find? (fun e => e.1 = name) = some e) :
    ∃ entries' e', m.get? here = some (.dir entries') ∧
      entries'.find? (fun e => e.1 = name) = some e' ∧ e.2.Keeps e'.2 := by
  obtain ⟨entries', hdir'⟩ := h.exists_dir hdir
  obtain ⟨k, hk, hkeeps⟩ := h _ _ (get?_of_entry hdir he)
  obtain ⟨e', he', rfl⟩ := Node.exists_entry hdir' hk
  exact ⟨entries', e', hdir', he', hkeeps⟩

/-- **A walk that arrives** does so in the grown tree, and at the same place. -/
theorem Leads.grows (h : n.Leads links here names place) (hgrows : n.Grows m) :
    m.Leads links here names place := by
  induction h with
  | done => exact .done
  | idle hdir hname _ ih =>
      obtain ⟨entries', hdir'⟩ := hgrows.exists_dir hdir
      exact .idle hdir' hname ih
  | up hdir _ ih =>
      obtain ⟨entries', hdir'⟩ := hgrows.exists_dir hdir
      exact .up hdir' ih
  | link hdir hname he hlink _ ih =>
      obtain ⟨entries', e', hdir', he', hkeeps⟩ := hgrows.exists_entry hdir he
      rw [hlink] at hkeeps
      exact .link hdir' hname he' hkeeps.eq_link ih
  | down hdir hname he hlink _ ih =>
      obtain ⟨entries', e', hdir', he', hkeeps⟩ := hgrows.exists_entry hdir he
      exact .down hdir' hname he' (hkeeps.ne_link hlink) ih

/-! ### New nodes -/

/-- Setting an entry changes none of another name. -/
theorem find?_setEntry_of_ne {key : String} (hne : key ≠ name) (value : Node)
    (entries : List (String × Node)) :
    (setEntry name (some value) entries).find? (fun e => e.1 = key) =
      entries.find? fun e => e.1 = key := by
  rw [setEntry]
  split
  · next hany =>
    clear hany
    induction entries with
    | nil => rfl
    | cons e entries ih =>
        by_cases hname : e.1 = name
        · have hkey : e.1 ≠ key := fun heq => hne (heq.symm.trans hname)
          rw [List.map_cons, if_pos hname, List.find?_cons_of_neg (by simpa using hne.symm),
            List.find?_cons_of_neg (by simpa using hkey), ih]
        · rw [List.map_cons, if_neg hname, List.find?_cons, List.find?_cons, ih]
  · rw [List.find?_append, List.find?_cons_of_neg (by simpa using hne.symm), List.find?_nil,
      Option.or_none]

/-- The set entry is found. -/
theorem find?_setEntry_self (value : Node) (entries : List (String × Node)) :
    (setEntry name (some value) entries).find? (fun e => e.1 = name) = some (name, value) := by
  rw [setEntry]
  split
  · next hany =>
    induction entries with
    | nil => cases hany
    | cons e entries ih =>
        by_cases hname : e.1 = name
        · rw [List.map_cons, if_pos hname, List.find?_cons_of_pos (by simp)]
        · rw [List.map_cons, if_neg hname, List.find?_cons_of_neg (by simpa using hname)]
          exact ih (by simpa [hname] using hany)
  · next hany =>
    have hnone : entries.find? (fun e => e.1 = name) = none :=
      List.find?_eq_none.mpr fun e he hname => hany (List.any_eq_true.mpr ⟨e, he, hname⟩)
    rw [List.find?_append, hnone, List.find?_cons_of_pos (by simp), Option.none_or]

/-- What has grown is left of what it was. -/
theorem Grows.keeps (h : n.Grows m) : n.Keeps m := by
  obtain ⟨k, hk, hkeeps⟩ := h [] n rfl
  obtain rfl : m = k := Option.some.inj hk
  exact hkeeps

/-- A directory grows with its entries. -/
theorem grows_dir {entries entries' : List (String × Node)}
    (h : ∀ name e, entries.find? (fun e => e.1 = name) = some e →
      ∃ e', entries'.find? (fun e => e.1 = name) = some e' ∧ e.2.Grows e'.2) :
    (dir entries).Grows (dir entries') := by
  intro place k hk
  cases place with
  | nil =>
      obtain rfl := Option.some.inj hk
      exact ⟨_, rfl, .dir⟩
  | cons name rest =>
      rw [get?, entry?] at hk
      obtain ⟨l, hl, hk⟩ := Option.bind_eq_some_iff.mp hk
      obtain ⟨e, he, rfl⟩ := Option.map_eq_some_iff.mp hl
      obtain ⟨e', he', hgrows⟩ := h name e he
      obtain ⟨k', hk', hkeeps⟩ := hgrows rest k hk
      have hentry : Node.entry? (dir entries') name = some e'.2 :=
        congrArg (Option.map Prod.snd) he'
      exact ⟨k', by rw [get?, hentry, Option.bind_some, hk'], hkeeps⟩

/-- A directory grows if the entry of one name does, or is new. -/
theorem grows_setEntry (value : Node)
    (h : ∀ e, entries.find? (fun e => e.1 = name) = some e → e.2.Grows value) :
    (dir entries).Grows (dir (setEntry name (some value) entries)) := by
  refine grows_dir fun key e he => ?_
  by_cases hkey : key = name
  · subst hkey
    exact ⟨_, find?_setEntry_self value entries, h e he⟩
  · exact ⟨e, (find?_setEntry_of_ne hkey value entries).trans he, .refl _⟩

/-- **A new node at a free place makes a tree grow.** -/
theorem grows_replace (hfree : n.get? place = none) (value : Node) :
    n.Grows (n.replace place (some value)) := by
  induction place generalizing n with
  | nil => cases hfree
  | cons name rest ih =>
      cases n with
      | file => exact .refl _
      | link => exact .refl _
      | dir entries =>
          have hentry : ∀ e, entries.find? (fun e => e.1 = name) = some e →
              Node.entry? (dir entries) name = some e.2 := fun e he =>
            congrArg (Option.map Prod.snd) he
          cases rest with
          | nil =>
              refine grows_setEntry value fun e he => ?_
              rw [get?, hentry e he] at hfree
              cases hfree
          | cons next rest =>
              rw [replace]
              split
              · next m hm =>
                refine grows_setEntry _ fun e he => ?_
                obtain rfl := Option.some.inj ((hentry e he).symm.trans hm)
                rw [get?, hm] at hfree
                exact ih hfree
              · exact .refl _

end Node

namespace Files

/-- Nothing is taken away from the tree, and the current directory is the same. -/
structure Grows (f g : Files) : Prop where
  root : f.root.Grows g.root
  cwd : g.cwd = f.cwd

variable {f g k : Files} {path : String} {place : Place} {n : Node}

/-- A path leads to the node at its place. -/
theorem node_eq_ok_iff :
    f.node path = .ok n ↔ ∃ place, f.place path true = .ok place ∧ f.root.get? place = some n := by
  rw [node]
  cases f.place path true with
  | error e => exact iff_of_false nofun (by simp)
  | ok place =>
      cases hnode : f.root.get? place <;> simp [hnode, bind, Except.bind]

/-- A path leads to a program. -/
theorem isProgram_iff :
    f.isProgram path = true ↔ ∃ n, f.node path = .ok n ∧ n.isProgram = true := by
  rw [isProgram]
  cases f.node path <;> simp [Except.toOption]

namespace Grows

theorem refl (f : Files) : f.Grows f := ⟨.refl _, rfl⟩

theorem trans (h : f.Grows g) (h' : g.Grows k) : f.Grows k :=
  ⟨h.root.trans h'.root, h'.cwd.trans h.cwd⟩

/-- A path leads where it led. -/
theorem place_eq (h : f.Grows g) (hplace : f.place path true = .ok place) :
    g.place path true = .ok place := by
  have hstart : g.start path = f.start path := by rw [start, start, h.cwd]
  rw [Files.place] at hplace ⊢
  split at hplace
  · cases hplace
  split at hplace
  · cases hplace
  split at hplace
  · cases hplace
  next hzero hempty hshort =>
  rw [if_neg hzero, if_neg hempty, if_neg hshort, hstart]
  exact Node.walk_eq_ok_iff.mpr ((Node.walk_eq_ok_iff.mp hplace).grows h.root)

/-- A path leads to what is left of the node that it led to. -/
theorem exists_node (h : f.Grows g) (hnode : f.node path = .ok n) :
    ∃ m, g.node path = .ok m ∧ n.Keeps m := by
  obtain ⟨place, hplace, hn⟩ := node_eq_ok_iff.mp hnode
  obtain ⟨m, hm, hkeeps⟩ := h.root place n hn
  exact ⟨m, node_eq_ok_iff.mpr ⟨place, h.place_eq hplace, hm⟩, hkeeps⟩

/-- **A program stays a program.** -/
theorem isProgram (h : f.Grows g) (hprogram : f.isProgram path = true) :
    g.isProgram path = true := by
  obtain ⟨n, hnode, hn⟩ := isProgram_iff.mp hprogram
  obtain ⟨m, hm, hkeeps⟩ := h.exists_node hnode
  exact isProgram_iff.mpr ⟨m, hm, hkeeps.isProgram hn⟩

end Grows

end Files

end LintVerdict
