import LintVerdict.Proofs.Pattern.Shorthand
import LintVerdict.Proofs.Text

/-!
# How a diagnostic begins

A shorthand matches where a line begins with a path, numbers and colons. The file says this
without an expression: a path is as short as it can be, a number is a whole run of digits, and
behind the last colon the match takes all blanks and then the rest of a line.

## Main definitions

* `Location`: the beginning of a diagnostic.
* `Shorthand.location?`: the location at the beginning of a text.

## Main results

* `matchAt?_eq`: a shorthand matches where a line begins with a location.
* `locate?_eq_some`: a location reads the text at its place.
-/

namespace LintVerdict

open Pattern (Ahead CharSet Look Match Program Regex)

/-- The beginning of a diagnostic, and what stands behind it. -/
structure Location where
  /-- The path. -/
  path : List Char
  /-- The digits of the line. -/
  line : List Char
  /-- The digits of the column, where there is one. -/
  column : Option (List Char)
  /-- What stands behind the last colon. -/
  rest : List Char
  deriving DecidableEq, Repr

namespace Location

/-- The blanks before the message. -/
def gap (loc : Location) : List Char := loc.rest.takeWhile Text.isBlank

/-- The message: the rest of the line on which the blanks end. -/
def message (loc : Location) : List Char := (loc.rest.dropWhile Text.isBlank).takeWhile inLine

/-- What stands behind the message. -/
def behind (loc : Location) : List Char := (loc.rest.dropWhile Text.isBlank).dropWhile inLine

theorem dropWhile_rest (loc : Location) :
    loc.rest.dropWhile Text.isBlank = loc.message ++ loc.behind := by
  rw [message, behind, List.takeWhile_append_dropWhile]

theorem rest_eq (loc : Location) : loc.rest = loc.gap ++ (loc.message ++ loc.behind) := by
  rw [← dropWhile_rest, gap, List.takeWhile_append_dropWhile]

/-- The characters of a location and of what stands behind it. -/
def chars (loc : Location) : List Char :=
  loc.path ++ ':' :: (loc.line ++ ':' :: loc.column.elim loc.rest (· ++ ':' :: loc.rest))

/-- The places that the match of a diagnostic notes when it begins at a place. -/
def saves (start : Nat) (loc : Location) : List (Nat × Nat) :=
  let path := start + loc.path.length
  let line := path + 1 + loc.line.length
  match loc.column with
  | none =>
    let message := line + 1 + loc.gap.length
    let stop := message + loc.message.length
    [(1, stop), (7, stop), (6, message), (5, line), (4, path + 1), (3, path), (2, start),
      (0, start)]
  | some cs =>
    let column := line + 1 + cs.length
    let message := column + 1 + loc.gap.length
    let stop := message + loc.message.length
    [(1, stop), (9, stop), (8, message), (7, column), (6, line + 1), (5, line), (4, path + 1),
      (3, path), (2, start), (0, start)]

end Location

/-- A run of digits that a colon ends, and what stands behind the colon. -/
def numeral? (cs : List Char) : Option (List Char × List Char) :=
  let digits := cs.takeWhile CharSet.digits.has
  let rest := cs.dropWhile CharSet.digits.has
  if digits ≠ [] ∧ rest.head? = some ':' then some (digits, rest.tail) else none

/-- The end of a path and its colon. -/
def pathEnd : List Char := ['.', 'g', 'o', ':']

namespace Shorthand

/-- The location with a given path whose numbers stand at the beginning of a text. -/
def numbered? (path cs : List Char) : Shorthand → Option Location
  | lineAndColumn => do
    let (line, cs) ← numeral? cs
    let (column, cs) ← numeral? cs
    return ⟨path, line, some column, cs⟩
  | lineOnly => do
    let (line, cs) ← numeral? cs
    return ⟨path, line, none, cs⟩

/-- The location whose path goes on at the beginning of a text. The path is as short as it can
be and stays on its line. -/
def locate? (s : Shorthand) (begun : List Char) : List Char → Option Location
  | [] => none
  | c :: cs =>
    (if pathEnd <+: c :: cs then s.numbered? (begun ++ pathEnd.dropLast) ((c :: cs).drop 4)
    else none).or (if inLine c then s.locate? (begun ++ [c]) cs else none)

/-- The location at the beginning of a text. -/
def location? (s : Shorthand) (cs : List Char) : Option Location := s.locate? [] cs

end Shorthand

variable {s : Shorthand} {text : Array Char} {i : Nat} {cs : List Char} {loc : Location}

/-! ### Numbers -/

theorem colon_not_digit : CharSet.digits.has ':' = false :=
  has_digits (by decide)

/-- A number is read from a run of digits and what follows it. -/
theorem numeral?_run {ds rest : List Char} (hds : ∀ c ∈ ds, CharSet.digits.has c = true)
    (hrest : rest.head?.any CharSet.digits.has = false) :
    numeral? (ds ++ rest) =
      if ds ≠ [] ∧ rest.head? = some ':' then some (ds, rest.tail) else none := by
  rw [numeral?, takeWhile_run hds hrest, dropWhile_run hds hrest]

theorem numeral?_append {ds rest : List Char} (hne : ds ≠ [])
    (hds : ∀ c ∈ ds, CharSet.digits.has c = true) :
    numeral? (ds ++ ':' :: rest) = some (ds, rest) := by
  have hrest : (':' :: rest).head?.any CharSet.digits.has = false := colon_not_digit
  rw [numeral?_run hds hrest]
  exact if_pos ⟨hne, rfl⟩

theorem numeral?_eq_some {n : List Char × List Char} (h : numeral? cs = some n) :
    cs = n.1 ++ ':' :: n.2 := by
  obtain ⟨ds, rest, rfl, hds, hrest⟩ := exists_run CharSet.digits.has cs
  rw [numeral?_run hds hrest] at h
  split at h
  · next hcolon =>
    obtain ⟨more, rfl⟩ := List.head?_eq_some_iff.mp hcolon.2
    obtain rfl := Option.some.inj h
    rfl
  · exact absurd h nofun

/-! ### The expressions on a text -/

section Expressions

variable {β : Type} {j : Nat} {r : Regex} {saves : List (Nat × Nat)}
  {k : Nat → List (Nat × Nat) → Option β}

theorem first_single {a : Char} : (Regex.chars (.single a)).first text j saves k =
    if text[j]? = some a then k (j + 1) saves else none := by
  rw [Regex.first_chars]
  cases text[j]? with
  | none => rfl
  | some c => simp [has_single]

theorem first_colon : (Regex.cat colon r).first text j saves k =
    if text[j]? = some ':' then r.first text (j + 1) saves k else none := by
  rw [Regex.first_cat, colon, first_single]

/-- A run of digits ends at a character that is none, so a shorter one is not followed by a
colon. -/
theorem first_star_digits {g : Nat} {ds rest : List Char} (hat : Ahead text j (ds ++ rest))
    (hds : ∀ c ∈ ds, CharSet.digits.has c = true)
    (hrest : rest.head?.any CharSet.digits.has = false) :
    (Regex.star true (.chars .digits)).first text j saves
        (fun i saves => (Regex.cat colon r).first text i ((g, i) :: saves) k) =
      (Regex.cat colon r).first text (j + ds.length) ((g, j + ds.length) :: saves) k := by
  refine Regex.first_star_greedy hat hds hrest (Or.inr fun i hi hlt => ?_)
  obtain ⟨n, rfl⟩ := Nat.exists_eq_add_of_le hi
  have hn : n < ds.length := by omega
  have hdigit : text[j + n]? = some ds[n] := by
    rw [hat.getElem?_add, List.getElem?_append_left hn, List.getElem?_eq_getElem hn]
  have hne : ds[n] ≠ ':' := by
    intro h
    have hhas := hds ds[n] (List.getElem_mem hn)
    rw [h, colon_not_digit] at hhas
    exact Bool.false_ne_true hhas
  rw [first_colon, hdigit, if_neg (by simpa using hne)]

/-- A number takes a run of digits and the colon behind it. -/
theorem first_numberPart {g : Nat} (hat : Ahead text j cs) :
    (numberPart g r).first text j saves k =
      (numeral? cs).bind fun n =>
        r.first text (j + n.1.length + 1)
          ((2 * g + 1, j + n.1.length) :: (2 * g, j) :: saves) k := by
  obtain ⟨ds, rest, rfl, hds, hrest⟩ := exists_run CharSet.digits.has cs
  rw [numeral?_run hds hrest, numberPart, Regex.first_cat, Regex.first_group,
    Regex.first_plus_chars, hat.getElem?]
  cases ds with
  | nil =>
      rw [List.nil_append, hrest]
      rfl
  | cons d ds =>
      have hlen : j + 1 + ds.length = j + (d :: ds).length := by
        rw [List.length_cons]
        omega
      have hend : text[j + (d :: ds).length]? = rest.head? := hat.append.getElem?
      rw [List.cons_append, List.head?_cons, Option.any_some, if_pos (hds d List.mem_cons_self)]
      refine (first_star_digits hat.tail
        (fun c hc => hds c (List.mem_cons_of_mem d hc)) hrest).trans ?_
      rw [hlen, first_colon, hend]
      by_cases hcolon : rest.head? = some ':'
      · rw [if_pos hcolon, if_pos ⟨List.cons_ne_nil d ds, hcolon⟩]
        rfl
      · rw [if_neg hcolon, if_neg fun h => hcolon h.2]
        rfl

/-- What the blanks before a message and the message leave is the end of a line. -/
theorem lineEnd_holds (hat : Ahead text j (loc.message ++ loc.behind)) :
    Look.lineEnd.holds (Program.before text (j + loc.message.length))
      text[j + loc.message.length]? = true := by
  have hblank := head?_dropWhile_any Text.isBlank loc.rest
  have hend := head?_dropWhile_any inLine (loc.rest.dropWhile Text.isBlank)
  have hline : ∀ c ∈ loc.message, inLine c = true := fun c hc => List.mem_takeWhile_imp hc
  rw [loc.dropWhile_rest] at hblank
  change loc.behind.head?.any inLine = false at hend
  rw [hat.append.getElem?]
  generalize loc.message = message at *
  generalize loc.behind = behind at *
  cases behind with
  | nil => rfl
  | cons c behind =>
      rw [List.head?_cons, Option.any_some] at hend
      obtain rfl | rfl := eq_of_not_inLine hend
      · rfl
      · -- the line feed is not blank only if a message stands before it
        rcases List.eq_nil_or_concat message with rfl | ⟨front, d, rfl⟩
        · rw [List.nil_append, List.head?_cons] at hblank
          exact absurd hblank (by decide)
        · have hd : d ≠ '\r' := by
            rintro rfl
            exact absurd (hline '\r' (by simp)) (by decide)
          rw [List.concat_eq_append, List.append_assoc] at hat
          rw [List.length_concat, ← Nat.add_assoc, hat.append.before]
          simp [Look.holds, hd]

/-- Blanks and a message can always be taken. -/
theorem first_messagePart {g : Nat} {f : Nat → List (Nat × Nat) → β}
    (hat : Ahead text j loc.rest) :
    (messagePart g).first text j saves (fun i saves => some (f i saves)) =
      some (f (j + loc.gap.length + loc.message.length)
        ((2 * g + 1, j + loc.gap.length + loc.message.length) ::
          (2 * g, j + loc.gap.length) :: saves)) := by
  have hgap := hat
  rw [loc.rest_eq] at hgap
  have hmessage : Ahead text (j + loc.gap.length) (loc.message ++ loc.behind) := hgap.append
  have hline : (Regex.cat (.group g (.star true (.chars lineSet))) (.look .lineEnd)).first text
      (j + loc.gap.length) saves (fun i saves => some (f i saves)) =
      some (f (j + loc.gap.length + loc.message.length)
        ((2 * g + 1, j + loc.gap.length + loc.message.length) ::
          (2 * g, j + loc.gap.length) :: saves)) := by
    have hlook : ∀ saves, (Regex.look .lineEnd).first text
        (j + loc.gap.length + loc.message.length) saves (fun i saves => some (f i saves)) =
        some (f (j + loc.gap.length + loc.message.length) saves) := by
      intro saves
      rw [Regex.first_look, if_pos (lineEnd_holds hmessage)]
    rw [Regex.first_cat, Regex.first_group, Regex.first_star_greedy hmessage]
    · exact hlook _
    · exact fun c hc => (has_lineSet c).trans (List.mem_takeWhile_imp hc)
    · rw [funext has_lineSet]
      exact head?_dropWhile_any inLine _
    · exact Or.inl (by rw [hlook]; rfl)
  rw [messagePart, Regex.first_cat, Regex.first_star_greedy hgap]
  · exact hline
  · exact fun c hc => (has_spaces c).trans (List.mem_takeWhile_imp hc)
  · rw [funext has_spaces, ← loc.dropWhile_rest]
    exact head?_dropWhile_any Text.isBlank _
  · exact Or.inl (by rw [hline]; rfl)

/-- The end of a path is taken together with its colon. -/
theorem first_extension (hat : Ahead text j cs) :
    extension.first text j saves
        (fun j saves => (Regex.cat colon r).first text j ((3, j) :: saves) k) =
      if pathEnd <+: cs then r.first text (j + 4) ((3, j + 3) :: saves) k else none := by
  have h0 := hat.getElem?_add 0
  have h1 := hat.getElem?_add 1
  have h2 := hat.getElem?_add 2
  have h3 := hat.getElem?_add 3
  rw [extension, Regex.first_cat, first_single]
  simp only [Regex.first_cat, first_single, colon, Nat.add_assoc, Nat.reduceAdd]
  rw [Nat.add_zero] at h0
  rw [h0, h1, h2, h3]
  by_cases h : pathEnd <+: cs
  · obtain ⟨rest, rfl⟩ := h
    rfl
  · have hsplit : ¬(cs[0]? = some '.' ∧ cs[1]? = some 'g' ∧ cs[2]? = some 'o' ∧
        cs[3]? = some ':') := by
      rintro ⟨h0, h1, h2, h3⟩
      refine h ⟨cs.drop 4, List.ext_getElem? fun n => ?_⟩
      rcases n with _ | _ | _ | _ | n
      · exact h0.symm
      · exact h1.symm
      · exact h2.symm
      · exact h3.symm
      · change (cs.drop 4)[n]? = cs[n + 4]?
        rw [List.getElem?_drop, Nat.add_comm]
    rw [if_neg h]
    split_ifs <;> simp_all

end Expressions



/-! ### Locations -/

/-- The numbers behind a path are taken as they stand. -/
theorem first_numbers {path : List Char} (hat : Ahead text (i + path.length + 1) cs) :
    s.numbers.first text (i + path.length + 1) [(3, i + path.length), (2, i), (0, i)]
        (fun stop saves => some (Match.mk ((1, stop) :: saves))) =
      (s.numbered? path cs).map fun loc => ⟨loc.saves i⟩ := by
  cases s with
  | lineAndColumn =>
      rw [Shorthand.numbers, first_numberPart hat, Shorthand.numbered?]
      cases hline : numeral? cs with
      | none => rfl
      | some line =>
          obtain rfl := numeral?_eq_some hline
          rw [Option.bind_some, first_numberPart hat.append.tail]
          cases hcolumn : numeral? line.2 with
          | none => simp [hcolumn]
          | some column =>
              have htail := hat.append.tail
              have hsplit := numeral?_eq_some hcolumn
              rw [hsplit] at htail
              have hrest : Ahead text _
                  (Location.mk path line.1 (some column.1) column.2).rest := htail.append.tail
              rw [Option.bind_some, first_messagePart hrest]
              simp [hcolumn, Location.saves]
  | lineOnly =>
      rw [Shorthand.numbers, first_numberPart hat, Shorthand.numbered?]
      cases hline : numeral? cs with
      | none => rfl
      | some line =>
          obtain rfl := numeral?_eq_some hline
          have hrest : Ahead text _ (Location.mk path line.1 none line.2).rest :=
            hat.append.tail
          rw [Option.bind_some, first_messagePart hrest]
          simp [Location.saves]

/-- The search for the end of a path stops where the first location is complete. -/
theorem first_path (begun : List Char) (hat : Ahead text (i + begun.length) cs) :
    (Regex.star false (.chars lineSet)).first text (i + begun.length) [(2, i), (0, i)]
        (fun j saves => extension.first text j saves fun j saves =>
          (Regex.cat colon s.numbers).first text j ((3, j) :: saves)
            fun stop saves => some (Match.mk ((1, stop) :: saves))) =
      (s.locate? begun cs).map fun loc => ⟨loc.saves i⟩ := by
  induction cs generalizing begun with
  | nil =>
      rw [Regex.first_star_lazy, first_extension hat, hat.getElem?, if_neg (by decide)]
      rfl
  | cons c cs ih =>
      rw [Regex.first_star_lazy, first_extension hat, hat.getElem?, List.head?_cons,
        Option.any_some, has_lineSet, Shorthand.locate?, Option.map_or]
      congr 1
      · split
        · next h =>
          obtain ⟨rest, hrest⟩ := h
          rw [← hrest] at hat ⊢
          have hnumbers : Ahead text (i + (begun ++ pathEnd.dropLast).length + 1) rest := by
            simpa [pathEnd, Nat.add_assoc] using hat.append
          have hlen : i + begun.length + 3 = i + (begun ++ pathEnd.dropLast).length := by
            simp [pathEnd, Nat.add_assoc]
          rw [show i + begun.length + 4 = i + begun.length + 3 + 1 from rfl, hlen,
            first_numbers hnumbers]
          rfl
        · rfl
      · split
        · have hnext : Ahead text (i + (begun ++ [c]).length) cs := by
            simpa [Nat.add_assoc] using hat.tail
          have hgo := ih (begun ++ [c]) hnext
          simpa [Nat.add_assoc] using hgo
        · rfl

/-- **A shorthand matches** where a line begins with a location. -/
theorem matchAt?_eq (hat : Ahead text i cs) :
    s.regex.matchAt? text i =
      if Look.lineStart.holds (Program.before text i) text[i]? then
        (s.location? cs).map fun loc => ⟨loc.saves i⟩
      else none := by
  have hpath := first_path (s := s) [] hat
  rw [Regex.matchAt?, Shorthand.regex, Regex.first_group, Regex.first_cat, Regex.first_look]
  refine if_congr Iff.rfl ?_ rfl
  rw [Regex.first_cat, pathPart, Regex.first_group, Regex.first_cat]
  exact hpath

/-! ### The characters of a location -/

theorem numbered?_eq_some {path : List Char} (h : s.numbered? path cs = some loc) :
    loc.chars = path ++ ':' :: cs ∧ loc.path = path ∧
      (loc.column.isSome = true ↔ s = .lineAndColumn) := by
  cases s with
  | lineAndColumn =>
      obtain ⟨line, hline, h⟩ := Option.bind_eq_some_iff.mp h
      obtain ⟨column, hcolumn, h⟩ := Option.bind_eq_some_iff.mp h
      obtain rfl := Option.some.inj h
      obtain rfl := numeral?_eq_some hline
      have hsplit := numeral?_eq_some hcolumn
      refine ⟨?_, rfl, ?_⟩
      · rw [hsplit]
        rfl
      · simp
  | lineOnly =>
      obtain ⟨line, hline, h⟩ := Option.bind_eq_some_iff.mp h
      obtain rfl := Option.some.inj h
      obtain rfl := numeral?_eq_some hline
      exact ⟨rfl, rfl, by simp⟩

/-- **A location reads the text at its place**, and its path ends with the extension. -/
theorem locate?_eq_some {begun : List Char} (h : s.locate? begun cs = some loc) :
    loc.chars = begun ++ cs ∧ pathEnd.dropLast <:+ loc.path ∧
      (loc.column.isSome = true ↔ s = .lineAndColumn) := by
  induction cs generalizing begun with
  | nil => exact absurd h nofun
  | cons c cs ih =>
      rw [Shorthand.locate?, Option.or_eq_some_iff] at h
      obtain h | ⟨-, h⟩ := h
      · split at h
        · next hend =>
          obtain ⟨rest, hrest⟩ := hend
          obtain ⟨hchars, hpath, hcolumn⟩ := numbered?_eq_some h
          refine ⟨?_, ⟨begun, hpath.symm⟩, hcolumn⟩
          rw [hchars, ← hrest]
          simp [pathEnd]
        · exact absurd h nofun
      · split at h
        · obtain ⟨hchars, hpath, hcolumn⟩ := ih h
          refine ⟨?_, hpath, hcolumn⟩
          rw [hchars, List.append_assoc]
          rfl
        · exact absurd h nofun

/-! ### Locations and the ends of lines -/

theorem inLine_of_mem_pathEnd : ∀ c ∈ pathEnd, inLine c = true :=
  List.all_eq_true.mp rfl

theorem locate?_lineEnd {begun : List Char} {c : Char} (hc : inLine c = false) :
    s.locate? begun (c :: cs) = none := by
  have hend : ¬pathEnd <+: c :: cs := by
    rintro ⟨rest, hrest⟩
    obtain ⟨rfl, -⟩ := List.cons.inj hrest
    exact absurd hc (by decide)
  rw [Shorthand.locate?, if_neg hend, hc]
  rfl

theorem location?_lineEnd {c : Char} (hc : inLine c = false) : s.location? (c :: cs) = none :=
  locate?_lineEnd hc

/-- The end of a path does not reach over the end of a line. -/
theorem pathEnd_prefix_append {line rest : List Char} (hrest : rest.head?.any inLine = false) :
    pathEnd <+: line ++ rest ↔ pathEnd <+: line := by
  refine ⟨fun h => ?_, fun h => h.trans (List.prefix_append line rest)⟩
  rcases Nat.le_total pathEnd.length line.length with hle | hle
  · exact List.prefix_of_prefix_length_le h (List.prefix_append line rest) hle
  · obtain ⟨more, hmore⟩ := List.prefix_of_prefix_length_le (List.prefix_append line rest) h hle
    cases more with
    | nil => exact ⟨[], by simpa using hmore.symm⟩
    | cons c more =>
        rw [← hmore, List.prefix_append_right_inj] at h
        obtain ⟨rest, rfl⟩ := h
        have hmem : c ∈ pathEnd := hmore ▸ List.mem_append_right line List.mem_cons_self
        exact absurd hrest (by simp [inLine_of_mem_pathEnd c hmem])

end LintVerdict
