import LintVerdict.FileList
import LintVerdict.Proofs.FirstError
import LintVerdict.Proofs.Text.Lines

/-!
# What a list of files names

A list names one file a line. A line may be blank or a comment instead, blanks may stand around what
it says, and a carriage return may stand before the line feed that ends it. The last line need not
be ended.

Lines are trimmed after the text was cut at the line feeds, so a carriage return is one more blank,
and a comment is told by the first character that is not blank. A list is written in many ways and
read in one.

## Main definitions

* `FileList.IsEntry`: a path that a list can name.
* `FileList.LineNames`: what one line names.
* `FileList.Writes`: a text that names some paths, line by line.

## Main results

* `FileList.writes_iff`: what a text names.
* `FileList.names_written`: the paths of a list are those that its text was written for.
-/

namespace LintVerdict

/-- Bytes are those of one text at most. -/
theorem fromUTF8?_eq_some_iff {bytes : ByteArray} {text : String} :
    String.fromUTF8? bytes = some text ↔ bytes = text.toUTF8 := by
  rw [String.fromUTF8?]
  constructor
  · intro h
    split at h
    · obtain rfl := Option.some.inj h
      rfl
    · cases h
  · rintro rfl
    exact dif_pos text.isValidUTF8

/-- A file holds a text if its bytes are those of the text. -/
theorem Files.readText_eq_ok_iff {files : Files} {path text : String} :
    files.readText path = .ok text ↔ files.read path = .ok text.toUTF8 := by
  rw [readText, bind_eq_ok_iff]
  constructor
  · rintro ⟨bytes, hread, htext⟩
    split at htext
    · next found hfound =>
      obtain rfl := Except.ok.inj htext
      rw [hread, fromUTF8?_eq_some_iff.mp hfound]
    · cases htext
  · intro hread
    exact ⟨_, hread, by rw [fromUTF8?_eq_some_iff.mpr rfl]⟩

namespace FileList

open Text

variable {cs line rest path : List Char} {said : Option (List Char)} {paths : List (List Char)}

/-- A path that a list can name. -/
structure IsEntry (path : List Char) : Prop where
  /-- There is something. -/
  ne_nil : path ≠ []
  /-- It does not begin with a blank. -/
  head : path.head?.any isBlank = false
  /-- It does not end with one. -/
  last : path.getLast?.any isBlank = false
  /-- It is on one line. -/
  feed : '\n' ∉ path
  /-- It is not taken for a comment. -/
  comment : path.head? ≠ some '#'

/-- What a line names: nothing if it is blank or a comment, else the path between the blanks. -/
inductive LineNames : List Char → Option (List Char) → Prop
  | blank {line : List Char} : (∀ c ∈ line, isBlank c = true) → LineNames line none
  | comment {before more : List Char} :
      (∀ c ∈ before, isBlank c = true) → LineNames (before ++ '#' :: more) none
  | entry {before path after : List Char} :
      (∀ c ∈ before, isBlank c = true) → IsEntry path → (∀ c ∈ after, isBlank c = true) →
      LineNames (before ++ (path ++ after)) (some path)

/-- A text names some paths, line by line and in order. -/
inductive Writes : List Char → List (List Char) → Prop
  /-- Nothing ends the last line. -/
  | last {line : List Char} {said : Option (List Char)} :
      '\n' ∉ line → LineNames line said → Writes line said.toList
  /-- A line feed ends a line, or a carriage return and a line feed. -/
  | line {line eol rest : List Char} {said : Option (List Char)} {paths : List (List Char)} :
      '\n' ∉ line → LineNames line said → eol = ['\n'] ∨ eol = ['\r', '\n'] → Writes rest paths →
      Writes (line ++ (eol ++ rest)) (said.toList ++ paths)

/-! ### One line -/

/-- What a line is taken to name: what is left of it, unless it is nothing or a comment. -/
def named? (line : List Char) : Option (List Char) :=
  if trimChars line = [] ∨ (trimChars line).head? = some '#' then none else some (trimChars line)

/-- A comment stays one when its line is trimmed. -/
theorem trimChars_comment (rest : List Char) : ∃ rest', trimChars ('#' :: rest) = '#' :: rest' := by
  have hmark : dropBlanks ('#' :: rest) = '#' :: rest := rfl
  obtain ⟨after, hafter⟩ := trimChars_prefix_dropBlanks ('#' :: rest)
  rw [hmark] at hafter
  cases htrim : trimChars ('#' :: rest) with
  | nil => exact absurd (trimChars_eq_nil_iff.mp htrim '#' List.mem_cons_self) (by decide)
  | cons c rest' =>
      rw [htrim, List.cons_append] at hafter
      exact ⟨rest', congrArg (· :: rest') (List.cons.inj hafter).1⟩

/-- Between blanks, a path is what is left of a line. -/
theorem IsEntry.trimChars_eq (h : IsEntry path) {before after : List Char}
    (hbefore : ∀ c ∈ before, isBlank c = true) (hafter : ∀ c ∈ after, isBlank c = true) :
    trimChars (before ++ (path ++ after)) = path := by
  rw [trimChars_between hbefore hafter, trimChars_eq_self h.head h.last]

/-- What is left of a line is a path, unless it is nothing or a comment. -/
theorem isEntry_trimChars (hline : '\n' ∉ line) (hne : trimChars line ≠ [])
    (hcomment : (trimChars line).head? ≠ some '#') : IsEntry (trimChars line) where
  ne_nil := hne
  head := head?_trimChars_any line
  last := getLast?_trimChars_any line
  feed := fun h => hline (trimChars_subset line h)
  comment := hcomment

/-- **A line names one thing at most**, which is told by what is left of it. -/
theorem lineNames_iff (hline : '\n' ∉ line) : LineNames line said ↔ said = named? line := by
  constructor
  · intro h
    cases h with
    | blank hblank => exact (if_pos (Or.inl (trimChars_eq_nil_iff.mpr hblank))).symm
    | @comment before more hbefore =>
        obtain ⟨rest', hrest⟩ := trimChars_comment more
        have htrim : trimChars (before ++ '#' :: more) = '#' :: rest' := by
          have hwhole := trimChars_between hbefore (List.forall_mem_nil _) ('#' :: more)
          rwa [List.append_nil, hrest] at hwhole
        exact (if_pos (Or.inr (congrArg List.head? htrim))).symm
    | @entry before path after hbefore hpath hafter =>
        have htrim := hpath.trimChars_eq hbefore hafter
        rw [named?, htrim, if_neg (not_or.mpr ⟨hpath.ne_nil, hpath.comment⟩)]
  · rintro rfl
    obtain ⟨before, after, hcut, hbefore, hafter⟩ := exists_blanks line
    by_cases hnil : trimChars line = []
    · rw [named?, if_pos (Or.inl hnil)]
      exact .blank (trimChars_eq_nil_iff.mp hnil)
    by_cases hcomment : (trimChars line).head? = some '#'
    · obtain ⟨rest', hrest⟩ := List.head?_eq_some_iff.mp hcomment
      rw [named?, if_pos (Or.inr hcomment), hcut, hrest, List.cons_append]
      exact .comment hbefore
    · have hnames := LineNames.entry hbefore (isEntry_trimChars hline hnil hcomment) hafter
      rw [← hcut] at hnames
      rwa [named?, if_neg (not_or.mpr ⟨hnil, hcomment⟩)]

/-- What a line names is a path. -/
theorem LineNames.isEntry (h : LineNames line (some path)) : IsEntry path := by
  cases h with
  | entry _ hpath _ => exact hpath

/-- A carriage return behind a line is one more blank. -/
theorem named?_return (line : List Char) : named? (line ++ ['\r']) = named? line := by
  rw [named?, named?, trimChars_concat (by decide)]

/-! ### All lines -/

/-- What a text is taken to name. -/
def entries (cs : List Char) : List (List Char) := (feedLines cs).filterMap named?

theorem entries_last (h : '\n' ∉ line) : entries line = (named? line).toList := by
  by_cases hne : line = []
  · rw [hne]
    rfl
  · rw [entries, feedLines_last h hne, List.filterMap_cons]
    cases named? line <;> rfl

theorem entries_line (h : '\n' ∉ line) :
    entries (line ++ '\n' :: rest) = (named? line).toList ++ entries rest := by
  rw [entries, feedLines_line h, List.filterMap_cons, entries]
  cases named? line <;> rfl

/-- **What a text names** is told line by line. -/
theorem writes_iff : Writes cs paths ↔ paths = entries cs := by
  constructor
  · intro h
    induction h with
    | last hline hnames => rw [entries_last hline, (lineNames_iff hline).mp hnames]
    | @line line eol rest said paths hline hnames heol _ ih =>
        rw [ih, (lineNames_iff hline).mp hnames]
        obtain rfl | rfl := heol
        · rw [List.singleton_append, entries_line hline]
        · have hreturn : '\n' ∉ line ++ ['\r'] := by
            simpa using hline
          have hcs : line ++ (['\r', '\n'] ++ rest) = (line ++ ['\r']) ++ '\n' :: rest := by
            simp
          rw [hcs, entries_line hreturn, named?_return]
  · rintro rfl
    induction cs using feed_induction with
    | last line hline =>
        rw [entries_last hline]
        exact .last hline ((lineNames_iff hline).mpr rfl)
    | feed line rest hline ih =>
        rw [entries_line hline]
        exact .line hline ((lineNames_iff hline).mpr rfl) (Or.inl rfl) ih

/-- A text names paths only. -/
theorem Writes.isEntry (h : Writes cs paths) : ∀ path ∈ paths, IsEntry path := by
  induction h with
  | last hline hnames =>
      intro path hpath
      rw [Option.mem_toList] at hpath
      exact (hpath ▸ hnames).isEntry
  | line hline hnames _ _ ih =>
      intro path hpath
      obtain hpath | hpath := List.mem_append.mp hpath
      · rw [Option.mem_toList] at hpath
        exact (hpath ▸ hnames).isEntry
      · exact ih path hpath

/-- Paths can be named, one a line. -/
theorem exists_writes (h : ∀ path ∈ paths, IsEntry path) : ∃ cs, Writes cs paths := by
  induction paths with
  | nil => exact ⟨[], .last List.not_mem_nil (.blank (List.forall_mem_nil _))⟩
  | cons path paths ih =>
      rw [List.forall_mem_cons] at h
      obtain ⟨rest, hrest⟩ := ih h.2
      have hnames : LineNames path (some path) := by
        simpa using LineNames.entry (List.forall_mem_nil _) h.1 (List.forall_mem_nil _)
      exact ⟨_, .line h.1.feed hnames (Or.inl rfl) hrest⟩

end FileList

/-! ### Lists on disk -/

/-- The files of a list are what its text names. -/
theorem listedFiles_eq (content : String) :
    listedFiles content = (FileList.entries content.toList).map String.ofList := by
  rw [listedFiles, Text.map_trimChars_lineChars, FileList.entries, List.filterMap_map,
    List.map_filterMap]
  refine List.filterMap_congr fun line _ => ?_
  rw [Function.comp_apply, FileList.named?]
  split
  · next h => rw [h]; rfl
  · next h => rw [h]; rfl
  · next hnil hcomment =>
    have hopen : ¬ (Text.trimChars line).head? = some '#' := fun h => by
      obtain ⟨rest, hrest⟩ := List.head?_eq_some_iff.mp h
      exact hcomment rest hrest
    rw [if_neg (not_or.mpr ⟨hnil, hopen⟩)]
    rfl

theorem listedFiles_eq_iff {content : String} {paths : List String} :
    listedFiles content = paths ↔ FileList.Writes content.toList (paths.map String.toList) := by
  have hback (ps : List (List Char)) : (ps.map String.ofList).map String.toList = ps := by
    simp [List.map_map, Function.comp_def]
  have hforth : (paths.map String.toList).map String.ofList = paths := by
    simp [List.map_map, Function.comp_def]
  rw [listedFiles_eq, FileList.writes_iff]
  constructor
  · rintro rfl
    exact hback _
  · intro h
    rw [← h, hforth]

theorem readFileList_eq_ok_iff {files : Files} {path : String} {paths : List String} :
    readFileList files path = .ok paths ↔
      ∃ text, files.readText path = .ok text ∧ listedFiles text = paths := by
  rw [readFileList]
  cases files.readText path <;> simp

/-- **The paths of a list** are those that its text was written for, however it was written. A list
that holds a text has such paths, and any paths that a list can name have a text. -/
theorem FileList.names_written (files : Files) (path : String) :
    (∀ paths, readFileList files path = .ok paths ↔
        ∃ text : String, files.read path = .ok text.toUTF8 ∧
          Writes text.toList (paths.map String.toList)) ∧
      (∀ text : String, files.read path = .ok text.toUTF8 →
        ∃ paths, readFileList files path = .ok paths ∧ ∀ p ∈ paths, IsEntry p.toList) ∧
      ∀ paths : List String, (∀ p ∈ paths, IsEntry p.toList) →
        ∃ text : String, Writes text.toList (paths.map String.toList) := by
  have hread (paths : List String) : readFileList files path = .ok paths ↔
      ∃ text : String, files.read path = .ok text.toUTF8 ∧
        Writes text.toList (paths.map String.toList) := by
    rw [readFileList_eq_ok_iff]
    exact exists_congr fun text => and_congr Files.readText_eq_ok_iff listedFiles_eq_iff
  refine ⟨hread, fun text htext => ?_, fun paths hpaths => ?_⟩
  · have hwrites : Writes text.toList ((listedFiles text).map String.toList) :=
      listedFiles_eq_iff.mp rfl
    refine ⟨_, (hread _).mpr ⟨text, htext, hwrites⟩, fun p hp => ?_⟩
    exact hwrites.isEntry _ (List.mem_map_of_mem hp)
  · obtain ⟨cs, hcs⟩ := exists_writes (List.forall_mem_map.mpr hpaths)
    exact ⟨String.ofList cs, by rwa [String.toList_ofList]⟩

end LintVerdict
