import LintVerdict.Proofs.Files.Spelling

/-!
# Paths under a base

A relative path is put behind a base with a slash between them, unless there is one. A piece that
names nothing may stand before the last name or not: the path leads to the same place.

## Main definitions

* `FilePath.lead`: what is put before a relative path.

## Main results

* `FilePath.join_append`: more text behind a path stands behind the joined path.
* `Files.place_append_idle`: an empty piece or a dot before the last name makes no difference.
* `Files.place_join_of_no_entry`: a path that begins with a missing name leads nowhere.
-/

namespace LintVerdict

namespace FilePath

variable {base path name more : String}

/-- What is put before a path that is not absolute: the base, and a slash if it needs one. -/
def lead (base : String) : String :=
  if base.isEmpty || base.toList.getLast? = some '/' then base else base ++ "/"

theorem join_of_relative (h : isAbsolute path = false) : join base path = lead base ++ path := by
  rw [join, if_neg (by simp [h]), lead]
  split <;> rfl

theorem exists_append_slash (h : path.toList.getLast? = some '/') : ∃ s, path = s ++ "/" := by
  obtain ⟨cs, hcs⟩ := List.getLast?_eq_some_iff.mp h
  refine ⟨String.ofList cs, String.toList_inj.mp ?_⟩
  rw [hcs, String.toList_append, String.toList_ofList]
  rfl

/-- What is put before a path is nothing or ends with a slash. -/
theorem lead_cases (base : String) : lead base = "" ∨ ∃ s, lead base = s ++ "/" := by
  rw [lead]
  split
  · next h =>
    obtain hempty | hslash := (Bool.or_eq_true _ _).mp h
    · exact Or.inl (String.isEmpty_iff.mp hempty)
    · exact Or.inr (exists_append_slash (of_decide_eq_true hslash))
  · exact Or.inr ⟨base, rfl⟩

/-- Whether a path is absolute depends on how it begins. -/
theorem isAbsolute_append (h : path ≠ "") : isAbsolute (path ++ more) = isAbsolute path := by
  obtain ⟨c, cs, hcs⟩ :=
    List.exists_cons_of_ne_nil fun hnil => h (String.toList_eq_nil_iff.mp hnil)
  rw [isAbsolute, isAbsolute, String.toList_append, hcs]
  rfl

/-- More text behind a path stands behind the joined path. -/
theorem join_append (h : path ≠ "") : join base (path ++ more) = join base path ++ more := by
  cases hpath : isAbsolute path with
  | true =>
      rw [join_of_absolute base hpath,
        join_of_absolute base ((isAbsolute_append h).trans hpath)]
  | false =>
      rw [join_of_relative hpath, join_of_relative ((isAbsolute_append h).trans hpath),
        String.append_assoc]

/-- A joined path ends as the path does. -/
theorem getLast?_join (h : path ≠ "") :
    (join base path).toList.getLast? = path.toList.getLast? := by
  obtain ⟨front, hfront⟩ : ∃ front, join base path = front ++ path := by
    cases habs : isAbsolute path with
    | true => exact ⟨"", (join_of_absolute base habs).trans String.empty_append.symm⟩
    | false => exact ⟨lead base, join_of_relative habs⟩
  have hne : path.toList ≠ [] := fun hnil => h (String.toList_eq_nil_iff.mp hnil)
  rw [hfront, String.toList_append, List.getLast?_append, List.getLast?_eq_some_getLast hne]
  rfl

/-- What is put before a name in a directory: the directory, and a slash if it has none. -/
theorem lead_join (h : path ≠ "") :
    lead (join base path) =
      if path.toList.getLast? = some '/' then join base path else join base path ++ "/" := by
  have hne : path.toList ≠ [] := fun hnil => h (String.toList_eq_nil_iff.mp hnil)
  have hfull : (join base path).isEmpty = false := by
    rw [Bool.eq_false_iff, Ne, String.isEmpty_iff]
    intro hempty
    have hlast : (join base path).toList.getLast? = path.toList.getLast? := getLast?_join h
    rw [hempty, List.getLast?_eq_some_getLast hne] at hlast
    cases hlast
  simp only [lead, hfull, getLast?_join h, Bool.false_or, decide_eq_true_eq]

end FilePath

open FilePath

variable {files : Files} {before piece name : String}

/-- The names on a path with a slash in it are those before the slash and those behind. -/
theorem splitAt_slash (before behind : String) :
    Text.splitAt '/' (before ++ "/" ++ behind) =
      Text.splitAt '/' before ++ Text.splitAt '/' behind :=
  Text.splitAt_of_toList (by simp)

theorem splitAt_of_idle (hidle : IsIdle piece) : Text.splitAt '/' piece = [piece] := by
  obtain rfl | rfl := hidle <;> rfl

/-- A path with one more piece starts where it did. -/
theorem isAbsolute_append_idle (hidle : IsIdle piece)
    (hbefore : before = "" ∧ piece ≠ "" ∨ ∃ s, before = s ++ "/")
    (hrelative : isAbsolute name = false) :
    isAbsolute (before ++ piece ++ "/" ++ name) = isAbsolute (before ++ name) := by
  obtain ⟨rfl, hne⟩ | ⟨s, rfl⟩ := hbefore
  · obtain rfl : piece = "." := hidle.resolve_left hne
    rw [String.empty_append, String.empty_append, hrelative, String.append_assoc,
      isAbsolute_append (by decide)]
    decide
  · have hne : s ++ "/" ≠ "" := by simp
    rw [String.append_assoc, String.append_assoc, isAbsolute_append hne, isAbsolute_append hne]

/-- A path with one more piece has the piece before the names that were last. -/
theorem splitAt_append_idle (hidle : IsIdle piece)
    (hbefore : before = "" ∧ piece ≠ "" ∨ ∃ s, before = s ++ "/") (name : String) :
    ∃ names, Text.splitAt '/' (before ++ name) = names ++ Text.splitAt '/' name ∧
      Text.splitAt '/' (before ++ piece ++ "/" ++ name) =
        names ++ piece :: Text.splitAt '/' name := by
  obtain ⟨rfl, -⟩ | ⟨s, rfl⟩ := hbefore
  · refine ⟨[], by rw [String.empty_append]; rfl, ?_⟩
    rw [String.empty_append, splitAt_slash, splitAt_of_idle hidle]
    rfl
  · refine ⟨Text.splitAt '/' s, splitAt_slash s name, ?_⟩
    rw [splitAt_slash, splitAt_slash, splitAt_of_idle hidle, List.append_assoc]
    rfl

/-- **A piece that names nothing makes no difference before the last name.** -/
theorem Files.place_append_idle (hidle : IsIdle piece)
    (hbefore : before = "" ∧ piece ≠ "" ∨ ∃ s, before = s ++ "/") (hname : name ≠ "")
    (hrelative : isAbsolute name = false)
    (hshort : (before ++ piece ++ "/" ++ name).length < pathLimit) :
    files.place (before ++ piece ++ "/" ++ name) true = files.place (before ++ name) true := by
  have hzero : '\x00' ∈ (before ++ piece ++ "/" ++ name).toList ↔
      '\x00' ∈ (before ++ name).toList := by
    obtain rfl | rfl := hidle <;> simp
  have hempty (s : String) : (s ++ name).isEmpty = false := by
    simp [Bool.eq_false_iff, String.isEmpty_iff, hname]
  have hshort' : (before ++ name).length < pathLimit := by
    simp only [String.length_append] at hshort ⊢
    omega
  have hstart := isAbsolute_append_idle hidle hbefore hrelative
  obtain ⟨names, hnames, hnames'⟩ := splitAt_append_idle hidle hbefore name
  have hmore : Text.splitAt '/' name ≠ [] := by
    simp [Text.splitAt, Text.splitChars_eq_splitOn, List.splitOn_ne_nil]
  rw [place, place, String.contains_char_eq, String.contains_char_eq, start, start, hstart, hnames,
    hnames', Node.walk_append_idle hidle hmore, hempty, hempty]
  simp only [hzero, if_neg (Nat.not_le.mpr hshort), if_neg (Nat.not_le.mpr hshort')]

/-! ### Names that are missing -/

variable {dir rel : String} {place : Place} {rest : List String} {entries : List (String × Node)}

/-- A path behind a base begins where the base does. -/
theorem isAbsolute_join_of_relative (hrel : isAbsolute rel = false) (hdir : dir ≠ "") :
    isAbsolute (join dir rel) = isAbsolute dir := by
  rw [join_of_relative hrel, lead]
  split
  · exact isAbsolute_append hdir
  · have hslash : dir ++ "/" ≠ "" := by simp
    rw [isAbsolute_append hslash, isAbsolute_append hdir]

/-- The names of a path behind a base are those of the base and those of the path, but for one that
says nothing. -/
theorem splitAt_join (hrel : isAbsolute rel = false) (hdir : dir ≠ "") :
    Text.splitAt '/' (join dir rel) = Text.splitAt '/' dir ++ Text.splitAt '/' rel ∨
      ∃ names, Text.splitAt '/' dir = names ++ [""] ∧
        Text.splitAt '/' (join dir rel) = names ++ Text.splitAt '/' rel := by
  rw [join_of_relative hrel]
  by_cases hend : dir.toList.getLast? = some '/'
  · obtain ⟨s, rfl⟩ := exists_append_slash hend
    have hlead : lead (s ++ "/") = s ++ "/" := by
      rw [lead, if_pos (by simp)]
    have hnone : Text.splitAt '/' "" = [""] := rfl
    refine Or.inr ⟨Text.splitAt '/' s, ?_, ?_⟩
    · rw [← hnone, ← splitAt_slash, String.append_empty]
    · rw [hlead, splitAt_slash]
  · have hlead : lead dir = dir ++ "/" := by
      rw [lead, if_neg (by simp [hdir, hend])]
    rw [hlead, splitAt_slash]
    exact Or.inl rfl

/-- Below a directory, a path leads nowhere if the directory has no entry of its first name. -/
theorem Files.place_join_of_no_entry (hplace : files.place dir true = .ok place)
    (hget : files.root.get? place = some (.dir entries)) (hrel : isAbsolute rel = false)
    (hnames : Text.splitAt '/' rel = name :: rest) (hname : IsName name)
    (hnone : name ∉ entries.map Prod.fst) : ∃ e, files.place (join dir rel) true = .error e := by
  rw [Files.place] at hplace
  split_ifs at hplace with hzero hempty hlong
  have hdir : dir ≠ "" := fun h => hempty (String.isEmpty_iff.mpr h)
  have hlost (left : Nat) : files.root.walk left true place (name :: rest) = .error .notFound := by
    have hfind : entries.find? (fun e => e.1 = name) = none := List.find?_eq_none.mpr
      fun e he heq => hnone (of_decide_eq_true heq ▸ List.mem_map_of_mem he)
    rw [Node.walk_name hget hname, hfind]
  have hwalk : files.root.walk linkLimit true (files.start dir)
      (Text.splitAt '/' dir ++ Text.splitAt '/' rel) = .error .notFound := by
    obtain ⟨left, hleft⟩ := (Node.leads_of_walk hplace).walk_append
    rw [hleft, hnames, hlost]
  have hjoin : files.root.walk linkLimit true (files.start (join dir rel))
      (Text.splitAt '/' (join dir rel)) = .error .notFound := by
    rw [Files.start, isAbsolute_join_of_relative hrel hdir, ← Files.start]
    obtain hsplit | ⟨names, hdirnames, hsplit⟩ := splitAt_join hrel hdir
    · rw [hsplit, hwalk]
    · rw [hsplit, ← hwalk, hdirnames, List.append_assoc, List.singleton_append,
        Node.walk_append_idle (Or.inl rfl) (by simp [hnames])]
  rw [Files.place]
  split_ifs
  · exact ⟨_, rfl⟩
  · exact ⟨_, rfl⟩
  · exact ⟨_, rfl⟩
  · exact ⟨_, hjoin⟩

end LintVerdict
