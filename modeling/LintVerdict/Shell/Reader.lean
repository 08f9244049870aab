import LintVerdict.Shell.Script

/-!
# Reading scripts

The reader takes one complete command at a time, up to the end of a line, so that a script runs
up to a line that it cannot read.

## Main definitions

* `readWord?`: a word.
* `readLine?`: the next complete command of a script.
-/

namespace LintVerdict.Shell

/-- A reader of the text that is left. -/
abbrev Reader := StateT (List Char) Option

/-- Fails. -/
def refuse {α : Type} : Reader α := fun _ => none

/-- A letter or an underscore. -/
def isNameStart (c : Char) : Bool :=
  ('a' ≤ c && c ≤ 'z') || ('A' ≤ c && c ≤ 'Z') || c = '_'

/-- A character of a name. -/
def isNameChar (c : Char) : Bool := isNameStart c || ('0' ≤ c && c ≤ '9')

/-- A character that ends a word when it is not quoted. -/
def endsWord (c : Char) : Bool :=
  c = ' ' || c = '\t' || c = '\n' || c = ';' || c = '&' || c = '|' || c = '<' || c = '>' ||
    c = '(' || c = ')'

/-- The text without the blanks and the comment at its start. -/
def skipBlanks : List Char → List Char
  | ' ' :: rest => skipBlanks rest
  | '\t' :: rest => skipBlanks rest
  | '\\' :: '\n' :: rest => skipBlanks rest
  | '#' :: rest => rest.dropWhile (· ≠ '\n')
  | cs => cs

/-- The text without the blanks, comments and line ends at its start. -/
def skipLines : Nat → List Char → List Char
  | 0, cs => cs
  | budget + 1, cs =>
    match skipBlanks cs with
    | '\n' :: rest => skipLines budget rest
    | rest => rest

/-- The text up to the parenthesis that closes as many as are open, and what follows it. The
quote that is open, if any, hides parentheses. -/
def matchParen (acc : List Char) (depth : Nat) (quote : Option Char) :
    List Char → Option (List Char × List Char)
  | [] => none
  | '\\' :: c :: rest =>
    if quote = some '\'' then matchParen ('\\' :: acc) depth quote (c :: rest)
    else matchParen (c :: '\\' :: acc) depth quote rest
  | c :: rest =>
    match quote with
    | some q => matchParen (c :: acc) depth (if c = q then none else quote) rest
    | none =>
      if c = '\'' || c = '\x22' then matchParen (c :: acc) depth (some c) rest
      else if c = '(' then matchParen (c :: acc) (depth + 1) none rest
      else if c = ')' then
        match depth with
        | 0 => some (acc.reverse, rest)
        | depth + 1 => matchParen (c :: acc) depth none rest
      else matchParen (c :: acc) depth none rest

/-- The text up to a backquote, with the escapes before it resolved, and what follows it. -/
def matchBackquote (acc : List Char) : List Char → Option (List Char × List Char)
  | [] => none
  | '\\' :: c :: rest =>
    if c = '\x60' || c = '\\' || c = '$' then matchBackquote (c :: acc) rest
    else matchBackquote (c :: '\\' :: acc) rest
  | c :: rest => if c = '\x60' then some (acc.reverse, rest) else matchBackquote (c :: acc) rest

/-- The text up to a quote, and what follows it. -/
def matchQuote (cs : List Char) : Option (List Char × List Char) :=
  match cs.span (· ≠ '\'') with
  | (inner, _ :: rest) => some (inner, rest)
  | _ => none

/-- A variable that has no name of letters. -/
def isSpecial (c : Char) : Bool :=
  c = '@' || c = '*' || c = '#' || c = '?' || c = '-' || c = '$' || c = '!' ||
    ('0' ≤ c && c ≤ '9')

/-- Where a text that is being read ends. -/
inductive Until where
  /-- At the end of a word. -/
  | wordEnd
  /-- At a double quote. -/
  | quote
  /-- At a closing brace. -/
  | brace
  /-- At the end of the text. -/
  | textEnd
  deriving DecidableEq, Repr

mutual

/-- Reads what stands behind a dollar sign. -/
def readDollar (quoted : Bool) : Nat → List Char → Option (WordPart × List Char)
  | 0, _ => none
  | budget + 1, cs =>
    match cs with
    | '(' :: '(' :: rest =>
      match matchParen [] 0 none rest with
      | some (inner, ')' :: rest) => do
        let (parts, _) ← readParts .textEnd true budget [] inner
        return (.sum parts quoted, rest)
      | _ => none
    | '(' :: rest => (matchParen [] 0 none rest).map fun (inner, rest) => (.output inner quoted, rest)
    | '\x7b' :: rest => readBraced quoted budget rest
    | c :: rest =>
      if isNameStart c then
        let (name, rest) := (c :: rest).span isNameChar
        some (.variable name .value quoted, rest)
      else if isSpecial c then some (.variable [c] .value quoted, rest)
      else some (.text ['$'] quoted, c :: rest)
    | [] => some (.text ['$'] quoted, [])

/-- Reads what stands behind a dollar sign and an opening brace. Quotes around the braces do not
quote a pattern within. -/
def readBraced (quoted : Bool) : Nat → List Char → Option (WordPart × List Char)
  | 0, _ => none
  | budget + 1, cs =>
    match cs with
    | '#' :: '\x7d' :: rest => some (.variable ['#'] .value quoted, rest)
    | '#' :: rest =>
      match rest.span (fun c => isNameChar c) with
      | ([], c :: '\x7d' :: rest) => some (.variable [c] .length quoted, rest)
      | (name, '\x7d' :: rest) => some (.variable name .length quoted, rest)
      | _ => none
    | _ =>
      let (name, rest) :=
        match cs.span isNameChar with
        | ([], c :: rest) => if isSpecial c then ([c], rest) else ([], c :: rest)
        | r => r
      if name.isEmpty then none
      else
        let within (inner : Bool) (use : Word → Use) (rest : List Char) :
            Option (WordPart × List Char) :=
          match readParts .brace inner budget [] rest with
          | some (parts, rest) => some (.variable name (use parts) quoted, rest)
          | none => none
        let done (use : Word → Use) (rest : List Char) : Option (WordPart × List Char) :=
          within quoted use rest
        let cut (use : Word → Use) (rest : List Char) : Option (WordPart × List Char) :=
          within false use rest
        match rest with
        | '\x7d' :: rest => some (.variable name .value quoted, rest)
        | ':' :: '-' :: rest => done (.fallback true .default) rest
        | ':' :: '=' :: rest => done (.fallback true .assign) rest
        | ':' :: '?' :: rest => done (.fallback true .refuse) rest
        | ':' :: '+' :: rest => done (.fallback true .alternative) rest
        | '-' :: rest => done (.fallback false .default) rest
        | '=' :: rest => done (.fallback false .assign) rest
        | '?' :: rest => done (.fallback false .refuse) rest
        | '+' :: rest => done (.fallback false .alternative) rest
        | '%' :: '%' :: rest => cut (.trim true true) rest
        | '%' :: rest => cut (.trim true false) rest
        | '#' :: '#' :: rest => cut (.trim false true) rest
        | '#' :: rest => cut (.trim false false) rest
        | _ => none

/-- Reads parts up to an end, those read so far in reverse order. The end itself is taken, but
not the end of a word. -/
def readParts (stop : Until) (quoted : Bool) :
    Nat → Word → List Char → Option (Word × List Char)
  | 0, _, _ => none
  | budget + 1, acc, cs =>
    match cs with
    | [] => if stop = .wordEnd || stop = .textEnd then some (acc.reverse, []) else none
    | '\\' :: '\n' :: rest => readParts stop quoted budget acc rest
    | '\\' :: c :: rest =>
      if quoted && !(c = '$' || c = '\x60' || c = '\x22' || c = '\\' ||
          (stop = .brace && c = '\x7d')) then
        readParts stop quoted budget (.text [c] true :: .text ['\\'] true :: acc) rest
      else readParts stop quoted budget (.text [c] true :: acc) rest
    | '$' :: rest =>
      match readDollar quoted budget rest with
      | some (p, rest) => readParts stop quoted budget (p :: acc) rest
      | none => none
    | '\x60' :: rest =>
      match matchBackquote [] rest with
      | some (inner, rest) => readParts stop quoted budget (.output inner quoted :: acc) rest
      | none => none
    | '\x22' :: rest =>
      if stop = .quote then some (acc.reverse, rest)
      else if stop = .textEnd then readParts stop quoted budget (.text ['\x22'] quoted :: acc) rest
      else
        match readParts .quote true budget [] rest with
        | some (inner, rest) =>
          readParts stop quoted budget (inner.reverse ++ .text [] true :: acc) rest
        | none => none
    | '\'' :: rest =>
      if quoted then readParts stop quoted budget (.text ['\''] true :: acc) rest
      else
        match matchQuote rest with
        | some (inner, rest) => readParts stop quoted budget (.text inner true :: acc) rest
        | none => none
    | c :: rest =>
      if stop = .brace && c = '\x7d' then some (acc.reverse, rest)
      else if stop = .wordEnd && endsWord c then some (acc.reverse, c :: rest)
      else readParts stop quoted budget (.text [c] quoted :: acc) rest

end

/-- Reads a word. -/
def readWord? (cs : List Char) : Option (Word × List Char) :=
  match readParts .wordEnd false (2 * cs.length + 2) [] cs with
  | some ([], _) => none
  | r => r

/-- The letters of a word without quotes at the start of a text, if it is one. -/
def plainWord? (cs : List Char) : Option (List Char × List Char) :=
  let (w, rest) := cs.span fun c =>
    !endsWord c && c ≠ '\\' && c ≠ '$' && c ≠ '\x60' && c ≠ '\x22' && c ≠ '\''
  match rest with
  | [] => if w.isEmpty then none else some (w, [])
  | c :: _ => if w.isEmpty || !endsWord c then none else some (w, rest)

/-- The words that end a list of commands. -/
def closers : List (List Char) :=
  ["then", "else", "elif", "fi", "do", "done", "esac", "\x7d"].map String.toList

/-- Whether a list of commands ends here. -/
def closes (cs : List Char) : Bool :=
  match cs with
  | [] => true
  | ')' :: _ => true
  | ';' :: ';' :: _ => true
  | _ => (plainWord? cs).any fun w => closers.contains w.1

/-- Takes a reserved word after blanks and line ends. -/
def keyword (w : String) : Reader Unit := fun cs =>
  match plainWord? (skipLines (cs.length + 1) cs) with
  | some (found, rest) => if found = w.toList then some ((), rest) else none
  | none => none

/-- Whether a reserved word comes next, after blanks and line ends. -/
def nextIs (w : String) : Reader Bool := fun cs =>
  match plainWord? (skipLines (cs.length + 1) cs) with
  | some (found, _) => some (found = w.toList, cs)
  | none => some (false, cs)

/-- Takes characters after blanks. -/
def symbol (s : String) : Reader Unit := fun cs =>
  let rest := skipBlanks cs
  if s.toList.isPrefixOf rest then some ((), rest.drop s.length) else none

/-- Takes a word after blanks. -/
def word : Reader Word := fun cs => readWord? (skipBlanks cs)

/-- The direction of a redirection by its sign, the stream it is about, and what follows. -/
def readSign? : List Char → Option (Direction × Nat × List Char)
  | '>' :: '>' :: rest => some (.append, 1, rest)
  | '>' :: '&' :: rest => some (.duplicate, 1, rest)
  | '>' :: '|' :: rest => some (.output, 1, rest)
  | '>' :: rest => some (.output, 1, rest)
  | '<' :: '&' :: rest => some (.duplicate, 0, rest)
  | '<' :: '<' :: _ => none
  | '<' :: rest => some (.input, 0, rest)
  | _ => none

/-- Takes a redirection if one comes next. -/
def redirect? (cs : List Char) : Option (Option Redirect × List Char) :=
  let start := skipBlanks cs
  let (digits, sign) := start.span fun c => '0' ≤ c && c ≤ '9'
  match readSign? sign with
  | none => if sign.head? = some '<' then none else some (none, cs)
  | some (direction, stream, rest) => do
    let (target, rest) ← readWord? (skipBlanks rest)
    let stream :=
      if digits.isEmpty then stream else digits.foldl (fun n c => 10 * n + (c.toNat - 48)) 0
    return (some ⟨stream, direction, target⟩, rest)

/-- Takes the redirections that come next. -/
def redirects : Nat → Reader (List Redirect)
  | 0 => refuse
  | budget + 1 => do
    match ← redirect? with
    | none => return []
    | some r => return r :: (← redirects budget)

/-- An assignment that a word is: a name, an equals sign and a value. -/
def assignment? (cs : List Char) : Option (List Char × List Char) :=
  match cs.span isNameChar with
  | (name, '=' :: rest) => if name.head?.any isNameStart then some (name, rest) else none
  | _ => none

/-- Takes the assignments, words and redirections of a simple command, each kind in reverse
order. -/
def simpleParts : Nat → List (List Char × Word) → List Word → List Redirect →
    Reader (List (List Char × Word) × List Word × List Redirect)
  | 0, _, _, _ => refuse
  | budget + 1, as, ws, rs => do
    match ← redirect? with
    | some r => simpleParts budget as ws (r :: rs)
    | none =>
      let cs := skipBlanks (← get)
      match (if ws.isEmpty then assignment? cs else none) with
      | some (name, rest) =>
        match readParts .wordEnd false (2 * rest.length + 2) [] rest with
        | some (value, rest) =>
          set rest
          simpleParts budget ((name, value) :: as) ws rs
        | none => refuse
      | none =>
        match cs with
        | [] => return (as, ws, rs)
        | c :: _ =>
          if endsWord c then return (as, ws, rs)
          else
            let w ← word
            simpleParts budget as (w :: ws) rs

/-- Takes a simple command. -/
def simple : Reader Script := do
  let cs ← get
  let (as, ws, rs) ← simpleParts (cs.length + 1) [] [] []
  if as.isEmpty && ws.isEmpty && rs.isEmpty then refuse
  else return .simple (cs.count '\n') as.reverse ws.reverse rs.reverse

/-- Takes the words up to the end of a list of them. -/
def wordsToEnd : Nat → Reader (List Word)
  | 0 => refuse
  | budget + 1 => do
    match skipBlanks (← get) with
    | [] => return []
    | c :: _ => if endsWord c then return [] else return (← word) :: (← wordsToEnd budget)

/-- Takes patterns with bars between them. -/
def patterns : Nat → Reader (List Word)
  | 0 => refuse
  | budget + 1 => do
    let w ← word
    match skipBlanks (← get) with
    | '|' :: rest =>
      set rest
      return w :: (← patterns budget)
    | _ => return [w]

/-- Takes the end of a simple line: a semicolon or line ends. -/
def separator : Reader Unit := fun cs =>
  match skipBlanks cs with
  | ';' :: rest => some ((), skipLines (rest.length + 1) rest)
  | rest => some ((), skipLines (rest.length + 1) rest)

/-- The name that a definition of a command begins with, and what follows the parentheses. -/
def definition? (cs : List Char) : Option (List Char × List Char) :=
  match cs.span isNameChar with
  | ([], _) => none
  | (name, rest) =>
    match skipBlanks rest with
    | '(' :: rest =>
      match skipBlanks rest with
      | ')' :: rest => some (name, rest)
      | _ => none
    | _ => none

mutual

/-- Takes a list of commands up to what ends it, on one line or on several. -/
def commands (oneLine : Bool) : Nat → Reader Script
  | 0 => refuse
  | budget + 1 => do
    modify fun cs => if oneLine then skipBlanks cs else skipLines (cs.length + 1) cs
    let cs ← get
    if closes cs || cs.head? = some '\n' then return .empty
    let c ← andOr budget
    modify skipBlanks
    match ← get with
    | ';' :: ';' :: _ => return c
    | ';' :: rest =>
      set rest
      return .sequence c (← commands oneLine budget)
    | '&' :: rest =>
      set rest
      return .sequence (.background c) (← commands oneLine budget)
    | '\n' :: rest =>
      if oneLine then return c
      set rest
      return .sequence c (← commands oneLine budget)
    | _ => return c

/-- Takes commands with `&&` and `||` between them. -/
def andOr : Nat → Reader Script
  | 0 => refuse
  | budget + 1 => do
    let c ← pipeline budget
    andOrRest budget c

/-- Takes what follows a command behind `&&` and `||`. -/
def andOrRest : Nat → Script → Reader Script
  | 0, _ => refuse
  | budget + 1, c => do
    match skipBlanks (← get) with
    | '&' :: '&' :: rest =>
      set (skipLines (rest.length + 1) rest)
      let d ← pipeline budget
      andOrRest budget (.both c d)
    | '|' :: '|' :: rest =>
      set (skipLines (rest.length + 1) rest)
      let d ← pipeline budget
      andOrRest budget (.either c d)
    | _ => return c

/-- Takes commands with bars between them. -/
def pipeline : Nat → Reader Script
  | 0 => refuse
  | budget + 1 => do
    modify skipBlanks
    if ← nextIs "!" then
      keyword "!"
      return .pipe true (← pipeParts budget)
    else
      match ← pipeParts budget with
      | [c] => return c
      | cs => return .pipe false cs

/-- Takes the parts of a pipeline. -/
def pipeParts : Nat → Reader (List Script)
  | 0 => refuse
  | budget + 1 => do
    let c ← command budget
    match skipBlanks (← get) with
    | '|' :: '|' :: _ => return [c]
    | '|' :: rest =>
      set (skipLines (rest.length + 1) rest)
      return c :: (← pipeParts budget)
    | _ => return [c]

/-- Takes a command. -/
def command : Nat → Reader Script
  | 0 => refuse
  | budget + 1 => do
    modify skipBlanks
    let cs ← get
    match definition? cs with
    | some (name, rest) =>
      set (skipLines (rest.length + 1) rest)
      return .define name (← command budget)
    | none =>
      match ← compound budget with
      | none => simple
      | some c =>
        match ← redirects (cs.length + 1) with
        | [] => return c
        | rs => return .redirected c rs

/-- Takes a command that holds others, if one comes next. -/
def compound : Nat → Reader (Option Script)
  | 0 => refuse
  | budget + 1 => do
    match ← get with
    | '(' :: rest =>
      set rest
      let c ← commands false budget
      symbol ")"
      return some (.subshell c)
    | cs =>
      match (plainWord? cs).map fun w => String.ofList w.1 with
      | some "\x7b" =>
        keyword "\x7b"
        let c ← commands false budget
        keyword "\x7d"
        return some c
      | some "if" =>
        keyword "if"
        return some (← choice budget)
      | some "while" =>
        keyword "while"
        return some (← loop true budget)
      | some "until" =>
        keyword "until"
        return some (← loop false budget)
      | some "for" =>
        keyword "for"
        let name ← fun cs => plainWord? (skipBlanks cs)
        let words ← if ← nextIs "in" then do
            keyword "in"
            pure (some (← wordsToEnd (cs.length + 1)))
          else pure none
        separator
        keyword "do"
        let body ← commands false budget
        keyword "done"
        return some (.each name words body)
      | some "case" =>
        keyword "case"
        let w ← word
        keyword "in"
        return some (.cases w (← branches budget))
      | _ => return none

/-- Takes what follows `if` or `elif`. -/
def choice : Nat → Reader Script
  | 0 => refuse
  | budget + 1 => do
    let condition ← commands false budget
    keyword "then"
    let yes ← commands false budget
    if ← nextIs "elif" then
      keyword "elif"
      return .choice condition yes (← choice budget)
    else if ← nextIs "else" then
      keyword "else"
      let no ← commands false budget
      keyword "fi"
      return .choice condition yes no
    else
      keyword "fi"
      return .choice condition yes .empty

/-- Takes what follows `while` or `until`. -/
def loop (holds : Bool) : Nat → Reader Script
  | 0 => refuse
  | budget + 1 => do
    let condition ← commands false budget
    keyword "do"
    let body ← commands false budget
    keyword "done"
    return .loop holds condition body

/-- Takes the branches of a `case` and its end. -/
def branches : Nat → Reader (List (List Word × Script))
  | 0 => refuse
  | budget + 1 => do
    if ← nextIs "esac" then
      keyword "esac"
      return []
    else
      modify fun cs => skipLines (cs.length + 1) cs
      match ← get with
      | '(' :: rest => set rest
      | _ => pure ()
      let ps ← patterns budget
      symbol ")"
      let body ← commands false budget
      modify fun cs => skipLines (cs.length + 1) cs
      match ← get with
      | ';' :: ';' :: rest =>
        set rest
        return (ps, body) :: (← branches budget)
      | _ =>
        keyword "esac"
        return [(ps, body)]

end

/-- Reads the next complete command and the end of its line. A script that has nothing more
gives nothing; one that cannot be read on gives an error. -/
def readLine? (cs : List Char) : Except Unit (Option (Script × List Char)) :=
  match skipLines (cs.length + 1) cs with
  | [] => .ok none
  | start =>
    match (commands true (4 * start.length + 8)).run start with
    | some (c, []) => .ok (some (c, []))
    | some (c, '\n' :: rest) => .ok (some (c, rest))
    | _ => .error ()

end LintVerdict.Shell
