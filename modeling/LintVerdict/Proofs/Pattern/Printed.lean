import LintVerdict.Proofs.Decimal
import LintVerdict.Proofs.Pattern.Entries

/-!
# Reading a printed output

A linter that prints diagnostics of the usual shapes, each on a line of its own and between any
other lines, is read exactly: every diagnostic is found with all its parts, and nothing else is.

## Main definitions

* `Diagnostic`, `Noise`, `Line`: what may be printed.
* `printed`: an output, its lines ended or separated by either kind of line end.

## Main results

* `findings_printed`: the findings of a printed output are its diagnostics.
-/

namespace LintVerdict

open Pattern (CharSet)

/-- A diagnostic of the usual shapes. -/
structure Diagnostic where
  /-- The path. -/
  path : String
  /-- The line. -/
  line : Nat
  /-- The column, which not every shape has. -/
  column : Nat
  /-- What stands before the message. -/
  gap : String
  /-- The message. -/
  message : String
  path_go : ∃ stem, path = stem ++ ".go"
  path_inLine : ∀ c ∈ path.toList, inLine c = true
  path_colon : ':' ∉ path.toList
  path_head : path.toList.head?.any Text.isBlank = false
  line_lt : line < Decimal.word64
  column_lt : column < Decimal.word64
  gap_blank : ∀ c ∈ gap.toList, c = ' ' ∨ c = '\t'
  message_inLine : ∀ c ∈ message.toList, inLine c = true
  message_ne : message ≠ ""
  message_head : message.toList.head?.any Text.isBlank = false
  message_last : message.toList.getLast?.any Text.isBlank = false

/-- A line that is no diagnostic. -/
structure Noise where
  /-- The line. -/
  text : String
  text_inLine : ∀ c ∈ text.toList, inLine c = true
  no_path : ¬".go:".toList <:+: text.toList

/-- A line of an output. -/
inductive Line where
  /-- A diagnostic. -/
  | diagnostic (d : Diagnostic)
  /-- Anything else. -/
  | noise (n : Noise)

/-- How a line ends. -/
inductive LineEnd where
  /-- With a line feed. -/
  | feed
  /-- With a carriage return and a line feed. -/
  | returnFeed
  deriving DecidableEq, Repr

/-- The characters of a line end. -/
def LineEnd.text : LineEnd → String
  | feed => "\n"
  | returnFeed => "\r\n"

namespace Diagnostic

/-- How a diagnostic is printed in the shape of a shorthand. -/
def text (d : Diagnostic) : Shorthand → String
  | .lineAndColumn =>
    d.path ++ ":" ++ toString d.line ++ ":" ++ toString d.column ++ ":" ++ d.gap ++ d.message
  | .lineOnly => d.path ++ ":" ++ toString d.line ++ ":" ++ d.gap ++ d.message

/-- What a diagnostic in the shape of a shorthand says. -/
def finding (d : Diagnostic) (linter : String) (s : Shorthand) : Finding where
  linter := linter
  path := d.path
  line := some d.line
  column :=
    match s with
    | .lineAndColumn => some d.column
    | .lineOnly => none
  message := d.message

end Diagnostic

namespace Line

/-- How a line is printed in the shape of a shorthand. -/
def text (s : Shorthand) : Line → String
  | diagnostic d => d.text s
  | noise n => n.text

/-- What a line says. -/
def finding? (linter : String) (s : Shorthand) : Line → Option Finding
  | diagnostic d => some (d.finding linter s)
  | noise _ => none

end Line

/-- An output: lines with their ends, and a last line that nothing ends. -/
def printed (s : Shorthand) : List (Line × LineEnd) → Option Line → String
  | [], none => ""
  | [], some line => line.text s
  | (line, ending) :: lines, last => line.text s ++ ending.text ++ printed s lines last

/-- What the lines of an output say. -/
def reported (linter : String) (s : Shorthand) (lines : List (Line × LineEnd))
    (last : Option Line) : List Finding :=
  (lines.map Prod.fst ++ last.toList).filterMap (Line.finding? linter s)

/-! ### The location of a diagnostic -/

variable {s : Shorthand} {cs rest : List Char}

/-- The path of a location ends at the first extension that a colon follows. -/
theorem locate?_path {begun stem : List Char} {loc : Location}
    (hline : ∀ c ∈ stem, inLine c = true) (hcolon : ':' ∉ stem ++ pathEnd.dropLast)
    (hloc : s.numbered? (begun ++ stem ++ pathEnd.dropLast) rest = some loc) :
    s.locate? begun (stem ++ pathEnd ++ rest) = some loc := by
  induction stem generalizing begun with
  | nil =>
      have hend : pathEnd <+: '.' :: 'g' :: 'o' :: ':' :: rest := List.prefix_append pathEnd rest
      rw [List.append_nil] at hloc
      rw [List.nil_append, show pathEnd ++ rest = '.' :: 'g' :: 'o' :: ':' :: rest from rfl,
        Shorthand.locate?, if_pos hend]
      exact (congrArg (Option.or · _) hloc).trans Option.some_or
  | cons c stem ih =>
      have hend : ¬pathEnd <+: c :: (stem ++ pathEnd ++ rest) := by
        intro h
        have hsplit : c :: (stem ++ pathEnd ++ rest) =
            (c :: stem ++ pathEnd.dropLast) ++ ':' :: rest := by
          simp [pathEnd]
        rw [hsplit] at h
        have hpath : pathEnd <+: c :: stem ++ pathEnd.dropLast :=
          List.prefix_of_prefix_length_le h (List.prefix_append _ _) (by simp [pathEnd])
        exact hcolon (hpath.subset (by decide))
      have hmore : ':' ∉ stem ++ pathEnd.dropLast := fun h => hcolon (List.mem_cons_of_mem c h)
      rw [List.cons_append, List.cons_append, Shorthand.locate?, if_neg hend, Option.none_or,
        if_pos (hline c List.mem_cons_self)]
      refine ih (fun d hd => hline d (List.mem_cons_of_mem c hd)) hmore ?_
      rwa [List.append_assoc begun, List.singleton_append]

theorem has_digits_of_mem_toString {n : Nat} {c : Char} (h : c ∈ (toString n).toList) :
    CharSet.digits.has c = true := by
  have hdigit := Decimal.isDigit_of_mem_toString h
  have hle : c ≤ '9' := by
    rw [Decimal.isDigit, Bool.and_eq_true, decide_eq_true_iff, decide_eq_true_iff] at hdigit
    exact hdigit.2
  have hlt : c.toNat ≤ 57 := hle
  rw [has_digits (by omega), hdigit]

theorem numeral?_toString (n : Nat) :
    numeral? ((toString n).toList ++ ':' :: rest) = some ((toString n).toList, rest) :=
  numeral?_append (Decimal.toString_ne_nil n) fun _ => has_digits_of_mem_toString

/-- The location that a printed diagnostic begins with. -/
def Diagnostic.location (d : Diagnostic) (s : Shorthand) (rest : List Char) : Location where
  path := d.path.toList
  line := (toString d.line).toList
  column :=
    match s with
    | .lineAndColumn => some (toString d.column).toList
    | .lineOnly => none
  rest := d.gap.toList ++ (d.message.toList ++ rest)

/-- A printed diagnostic is located with all its parts. -/
theorem location?_text (d : Diagnostic) (s : Shorthand) (rest : List Char) :
    s.location? ((d.text s).toList ++ rest) = some (d.location s rest) := by
  obtain ⟨stem, hstem⟩ := d.path_go
  have hpath : d.path.toList = stem.toList ++ pathEnd.dropLast := by
    rw [hstem, String.toList_append]
    rfl
  have hcolon := d.path_colon
  have hline : ∀ c ∈ stem.toList, inLine c = true := fun c hc =>
    d.path_inLine c (hpath ▸ List.mem_append_left _ hc)
  rw [hpath] at hcolon
  rw [Shorthand.location?]
  cases s with
  | lineAndColumn =>
      have hloc : Shorthand.lineAndColumn.numbered? ([] ++ stem.toList ++ pathEnd.dropLast)
          ((toString d.line).toList ++ ':' :: ((toString d.column).toList ++ ':' ::
            (d.gap.toList ++ (d.message.toList ++ rest)))) =
          some (d.location .lineAndColumn rest) := by
        simp only [Shorthand.numbered?, numeral?_toString, List.nil_append, ← hpath,
          Option.bind_eq_bind, Option.bind_some]
        rfl
      have hfound := locate?_path hline hcolon hloc
      simpa [Diagnostic.text, hpath, pathEnd] using hfound
  | lineOnly =>
      have hloc : Shorthand.lineOnly.numbered? ([] ++ stem.toList ++ pathEnd.dropLast)
          ((toString d.line).toList ++ ':' :: (d.gap.toList ++ (d.message.toList ++ rest))) =
          some (d.location .lineOnly rest) := by
        simp only [Shorthand.numbered?, numeral?_toString, List.nil_append, ← hpath,
          Option.bind_eq_bind, Option.bind_some]
        rfl
      have hfound := locate?_path hline hcolon hloc
      simpa [Diagnostic.text, hpath, pathEnd] using hfound

theorem Diagnostic.message_ne_nil (d : Diagnostic) : d.message.toList ≠ [] := fun h =>
  d.message_ne (String.toList_eq_nil_iff.mp h)

/-- The blanks of a printed diagnostic end at its message. -/
theorem dropWhile_location (d : Diagnostic) (s : Shorthand) (rest : List Char) :
    (d.location s rest).rest.dropWhile Text.isBlank = d.message.toList ++ rest := by
  have hgap : ∀ c ∈ d.gap.toList, Text.isBlank c = true := by
    intro c hc
    obtain rfl | rfl := d.gap_blank c hc <;> decide
  refine dropWhile_run hgap ?_
  rw [List.head?_append_of_ne_nil _ d.message_ne_nil]
  exact d.message_head

theorem message_location (d : Diagnostic) (s : Shorthand) (hrest : rest.head?.any inLine = false) :
    (d.location s rest).message = d.message.toList := by
  rw [Location.message, dropWhile_location, takeWhile_run d.message_inLine hrest]

theorem behind_location (d : Diagnostic) (s : Shorthand) (hrest : rest.head?.any inLine = false) :
    (d.location s rest).behind = rest := by
  rw [Location.behind, dropWhile_location, dropWhile_run d.message_inLine hrest]

/-- A line without a path that a colon follows holds no location. -/
theorem locate?_noise {begun line : List Char} (hline : ∀ c ∈ line, inLine c = true)
    (hpath : ¬pathEnd <:+: line) (hrest : rest.head?.any inLine = false) :
    s.locate? begun (line ++ rest) = none := by
  induction line generalizing begun with
  | nil =>
      cases rest with
      | nil => rfl
      | cons c rest => exact locate?_lineEnd hrest
  | cons c line ih =>
      have hend : ¬pathEnd <+: c :: (line ++ rest) := fun h =>
        hpath ((pathEnd_prefix_append hrest).mp h).isInfix
      have hmore : ¬pathEnd <:+: line := fun h => hpath (h.trans (List.suffix_cons c line).isInfix)
      rw [List.cons_append, Shorthand.locate?, if_neg hend, Option.none_or,
        if_pos (hline c List.mem_cons_self)]
      exact ih (fun d hd => hline d (List.mem_cons_of_mem c hd)) hmore

/-! ### The findings of an output -/

/-- The entry of a printed line. -/
def Line.entry? (s : Shorthand) : Line → Option Entry
  | diagnostic d => some (d.location s []).entry
  | noise _ => none

/-- **A printed line is read on its own**, whatever follows its end. -/
theorem entries_line (line : Line) (hrest : rest.head?.any inLine = false) :
    s.entries ((line.text s).toList ++ rest) =
      (line.entry? s).toList ++ s.entries rest.tail := by
  rw [entries_eq, Shorthand.behind]
  cases line with
  | diagnostic d =>
      have hentry : (d.location s rest).entry = (d.location s []).entry := by
        rw [Location.entry, Location.entry, message_location d s hrest, message_location d s rfl]
        rfl
      rw [Line.text, location?_text]
      dsimp only
      rw [behind_location d s hrest, Option.map_some, hentry]
      rfl
  | noise n =>
      have hnone : s.location? (n.text.toList ++ rest) = none :=
        locate?_noise n.text_inLine n.no_path hrest
      rw [Line.text, hnone]
      dsimp only
      rw [dropWhile_run n.text_inLine hrest]
      rfl

theorem entries_lineEnd (ending : LineEnd) (cs : List Char) :
    s.entries (ending.text.toList ++ cs).tail = s.entries cs := by
  cases ending with
  | feed => rfl
  | returnFeed =>
      have hreturn : (LineEnd.returnFeed.text.toList ++ cs).tail = '\n' :: cs := rfl
      have hnone : s.location? ('\n' :: cs) = none := location?_lineEnd (by decide)
      rw [hreturn, entries_eq, Shorthand.behind, hnone]
      dsimp only
      rw [List.dropWhile_cons_of_neg (by decide)]
      rfl

theorem entries_printed (s : Shorthand) (lines : List (Line × LineEnd)) (last : Option Line) :
    s.entries (printed s lines last).toList =
      (lines.map Prod.fst ++ last.toList).filterMap (Line.entry? s) := by
  induction lines with
  | nil =>
      cases last with
      | none => exact entries_nil s
      | some line =>
          have hline : s.entries ((line.text s).toList ++ []) =
              (line.entry? s).toList ++ s.entries [] := entries_line line rfl
          rw [List.append_nil, entries_nil, List.append_nil] at hline
          rw [printed, hline]
          cases hentry : line.entry? s <;> simp [hentry]
  | cons l lines ih =>
      obtain ⟨line, ending⟩ := l
      have hend : (ending.text.toList ++ (printed s lines last).toList).head?.any inLine =
          false := by
        cases ending <;> rfl
      rw [printed, String.toList_append, String.toList_append, List.append_assoc,
        entries_line line hend, entries_lineEnd, ih]
      cases hentry : line.entry? s <;> simp [hentry]

theorem trimChars_path (d : Diagnostic) : Text.trimChars d.path.toList = d.path.toList := by
  obtain ⟨stem, hstem⟩ := d.path_go
  refine Text.trimChars_eq_self d.path_head ?_
  rw [hstem, String.toList_append, show ".go".toList = ['.', 'g', 'o'] from rfl,
    List.getLast?_append]
  rfl

theorem finding_entry? (line : Line) (linter : String) (fallback : Option String) :
    (line.entry? s).map (fun e => e.finding linter fallback) = line.finding? linter s := by
  cases line with
  | diagnostic d =>
      have hline : OutputPattern.number? (toString d.line).toList = some d.line :=
        Decimal.boundedNat?_toString d.line_lt
      have hcolumn : OutputPattern.number? (toString d.column).toList = some d.column :=
        Decimal.boundedNat?_toString d.column_lt
      have hmessage : OutputPattern.nonempty? (Text.trimChars d.message.toList) =
          some d.message.toList := by
        rw [Text.trimChars_eq_self d.message_head d.message_last]
        exact if_neg (by simpa using d.message_ne_nil)
      rw [Line.entry?, Option.map_some, Line.finding?, Location.entry, message_location d s rfl]
      cases s <;>
        simp only [Entry.finding, Diagnostic.finding, Diagnostic.location, trimChars_path,
          hmessage, hline, hcolumn, Option.map_some, Option.getD_some, Option.bind_some,
          Option.bind_none, String.ofList_toList]
  | noise n => rfl

/-- **A printed output is read exactly**: each shorthand finds its diagnostics, all and only
these, in order and with all their parts, whatever message a finding without one would get. -/
theorem findings_printed (s : Shorthand) :
    ∃ p, OutputPattern.parse s.name = .ok p ∧
      ∀ (linter : String) (fallback : Option String) (lines : List (Line × LineEnd))
        (last : Option Line),
        p.findings linter (printed s lines last) fallback = reported linter s lines last := by
  refine ⟨s.pattern, s.parse_name, fun linter fallback lines last => ?_⟩
  rw [findings_eq, entries_printed, List.map_filterMap, reported]
  exact congrArg (List.filterMap · _) (funext fun line => finding_entry? line linter fallback)

/-- An output with a diagnostic that a carriage return and a line feed end, and one more line. -/
example :
    let d : Diagnostic :=
      ⟨"a.go", 1, 2, " ", "oops", ⟨"a", rfl⟩, List.all_eq_true.mp rfl, by decide, rfl,
        by decide, by decide, by simp, List.all_eq_true.mp rfl, by decide, rfl, rfl⟩
    let n : Noise := ⟨"done", List.all_eq_true.mp rfl, by decide⟩
    printed .lineAndColumn [(.diagnostic d, .returnFeed)] (some (.noise n)) =
      "a.go:1:2: oops\r\ndone" := by
  decide

end LintVerdict
