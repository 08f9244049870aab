import LintVerdict.Shell.Outcome
import LintVerdict.Shell.Reader

/-!
# The meaning of scripts

Every function here takes a budget that bounds how deep its calls go; the recursion is
structural on it. A run that needs more counts as one that does not end in time.

## Main definitions

* `expandWords`: the words that stand for the words of a command.
* `run`: runs a command.
* `runText`: runs a script, read command by command.
* `runProgram`: runs a file with arguments.
-/

namespace LintVerdict.Shell

/-- Whether the value of a word depends on what a script prints. -/
def hasOutput (w : Word) : Bool :=
  w.any fun p =>
    match p with
    | .output _ _ => true
    | _ => false

/-- Whether a word stands for no word at all when there are no arguments. -/
def isOnlyArguments (w : Word) : Bool :=
  let isArguments (p : WordPart) : Bool :=
    match p with
    | .variable ['@'] .value true => true
    | _ => false
  let isMark (p : WordPart) : Bool :=
    match p with
    | .text [] true => true
    | _ => false
  w.any isArguments && w.all fun p => isArguments p || isMark p

/-- The pieces of the value of a variable, if it has one. -/
def valuePieces? (s : State) (name : List Char) (quoted : Bool) : Option (List Piece) :=
  match name with
  | ['@'] => if s.args.isEmpty then none else some (Piece.between quoted s.args)
  | ['*'] =>
    if s.args.isEmpty then none
    else if quoted then some (Piece.ofValue true (State.joined (s.separators.take 1) s.args))
    else some (Piece.between false s.args)
  | _ => (s.value? name).map (Piece.ofValue quoted)

/-- A text without the part at one end that fits a pattern. The candidates are tried from the
shortest or the longest part on. -/
def trimmed (fromEnd longest : Bool) (p : List Fit) (cs : List Char) : List Char :=
  let lengths := List.range (cs.length + 1)
  let lengths := if longest then lengths.reverse else lengths
  let part (n : Nat) : List Char := if fromEnd then cs.drop (cs.length - n) else cs.take n
  match lengths.find? fun n => fits p (part n) with
  | some n => if fromEnd then cs.take (cs.length - n) else cs.drop n
  | none => cs

/-- The number that a variable in an expression has. -/
def numberOfVariable (s : State) (name : List Char) : Option Int :=
  match s.value? name with
  | none => some 0
  | some cs => if cs.isEmpty then some 0 else signedNumber? cs

/-- The characters without the line ends at the end. -/
def dropFinalFeeds (cs : List Char) : List Char := (cs.reverse.dropWhile (· = '\n')).reverse

/-- The file that a command is in. -/
def State.findCommand (s : State) (name : List Char) : Except SystemError (List Char) :=
  let check (path : SystemText) : Except SystemError Unit :=
    match s.files.node path with
    | .error e => .error (if e = .notDirectory then .notFound else e)
    | .ok n => if n.isProgram then .ok () else .error .denied
  if name.contains '/' then (check (String.ofList name)).map fun _ => name
  else
    let path := (s.setting? "PATH".toList).getD []
    let candidates := (Text.splitChars ':' path).map fun dir =>
      if dir.isEmpty then name else dir ++ '/' :: name
    match candidates.find? fun c => (check (String.ofList c)).isOk with
    | some c => .ok c
    | none =>
      let isPlain (c : List Char) : Bool := s.files.isFile (String.ofList c)
      .error (if candidates.any isPlain then .denied else .notFound)

/-- What a program file of the system starts with. -/
def utilityMark : List Char := ['\x7f', 'E', 'L', 'F']

/-- The interpreter that the first line of a script names, and its argument. -/
def interpreter (cs : List Char) : List (List Char) :=
  let line := (cs.drop 2).takeWhile (· ≠ '\n')
  let isSpace (c : Char) : Bool := c = ' ' || c = '\t'
  let line := ((line.dropWhile isSpace).reverse.dropWhile isSpace).reverse
  let (name, rest) := line.span fun c => !isSpace c
  let rest := rest.dropWhile isSpace
  if rest.isEmpty then [name] else [name, rest]

/-- The utility that runs when a file is started, with its arguments: a script is handed to its
interpreter. -/
def resolveProgram (files : Files) :
    Nat → List Char → List (List Char) → Except SystemError (List Char × List (List Char))
  | 0, _, _ => .error .linkLoop
  | depth + 1, path, args => do
    match ← files.node (String.ofList path) with
    | .file content true =>
      let cs := Text.byteChars content
      if utilityMark.isPrefixOf cs then .ok (cs.drop utilityMark.length, args)
      else if ['#', '!'].isPrefixOf cs then
        match interpreter cs with
        | [] => .error .noProgram
        | [] :: _ => .error .noProgram
        | name :: more => resolveProgram files depth name (more ++ path :: args)
      else .error .noProgram
    | _ => .error .denied

/-- The state in which a program starts. -/
def State.forProgram (s : State) (self : List Char) : State :=
  let s := { s with
    vars := s.vars.filter Variable.exported
    self
    args := []
    commands := []
    status := 0
    lines := 0
    strict := false
    atExit := none
    process := s.process + 1 }
  if (s.setting? "PWD".toList).isSome then s
  else s.assign "PWD".toList s.files.here.toList

/-- The variables as they were before a command, for the names that it was given values for. -/
def State.restored (s before : State) (names : List (List Char)) : State :=
  names.foldl
    (fun s n =>
      match before.vars.find? fun v => v.name = n with
      | some v => { s.unset n with vars := (s.unset n).vars ++ [v] }
      | none => s.unset n)
    s

/-- The commands that the shell carries out without a file. -/
def builtinUtilities : List String := ["echo", "printf", "test", "[", "true", "false"]

/-- Complains about arguments that are no numbers. -/
def refuseNumbers (below : Nat) : List (List Char) → Run Unit
  | [] => return ()
  | a :: rest => do
    fail below ("printf: " ++ String.ofList a ++ ": expected numeric value") 1
    refuseNumbers below rest

/-- Carries out a small command of the shell itself. -/
def runBuiltin (below : Nat) (name : String) (args : List (List Char)) : Run Unit := do
  let s ← get
  let operands := if name = "[" then args.dropLast else args
  if (name = "echo" || name = "printf") && (s.channel? 1).isNone then
    fail below (name ++ ": " ++ name ++ ": I/O error") 1
  else if name = "[" && args.getLast? ≠ some [']'] then fail below "[: missing ]" 2
  else if (name = "[" || name = "test") && (condition? s operands).isNone then
    fail below (name ++ ": " ++ testFault operands) 2
  else
    match utility? name args s with
    | none => setStatus 127
    | some t => do
      set t
      if name = "printf" then
        match args with
        | [] => fail below "printf: usage: printf format [arg ...]" 2
        | format :: args => refuseNumbers below (printfText format args).2

/-- Says where a command comes from. -/
def whereIs (name : List Char) : Run Unit := do
  let s ← get
  let own := (s.commands.any fun c => c.1 = name) ||
    (builtinUtilities ++ ["cd", "exit", "read", "set", "kill", "exec", "eval", "export"]).contains
      (String.ofList name)
  if own then set ((s.write 1 (name ++ ['\n'])).withStatus 0)
  else
    match s.findCommand name with
    | .ok path => set ((s.write 1 (path ++ ['\n'])).withStatus 0)
    | .error _ => setStatus 127

mutual

/-- The pieces of a part of a word. -/
def expandPart : Nat → WordPart → Run (List Piece)
  | 0, _ => throw .late
  | budget + 1, p =>
    match p with
    | .text cs quoted => return if quoted then .keep :: cs.map .solid else cs.map .plain
    | .variable name use quoted => expandVariable budget name use quoted
    | .output script quoted => do
      let text ← captured do
        modify fun s => { s with lines := script.count '\n' }
        runText budget script
      return Piece.ofValue quoted ((dropFinalFeeds text).filter (· ≠ '\x00'))
    | .sum expression quoted => do
      let cs := Piece.chars (← expandParts budget expression)
      match arithmetic? (numberOfVariable (← get)) cs with
      | some n => return Piece.ofValue quoted (toString n).toList
      | none =>
        fail 0 ("arithmetic expression: expecting primary: \"" ++ String.ofList cs ++ "\"") 2
        throw .leave

/-- The pieces of parts of a word. -/
def expandParts : Nat → Word → Run (List Piece)
  | 0, _ => throw .late
  | _, [] => return []
  | budget + 1, p :: ps => do
    let first ← expandPart budget p
    return first ++ (← expandParts budget ps)

/-- The pieces of a variable. -/
def expandVariable : Nat → List Char → Use → Bool → Run (List Piece)
  | 0, _, _, _ => throw .late
  | budget + 1, name, use, quoted => do
    let found := valuePieces? (← get) name quoted
    match use with
    | .value => return found.getD (if quoted && name ≠ ['@'] then [.keep] else [])
    | .length =>
      return Piece.ofValue quoted (State.digits ((found.map Piece.chars).getD []).length)
    | .fallback colon kind word =>
      let present := found.isSome && !(colon && (found.map Piece.chars) = some [])
      let instead : Run (List Piece) := do
        let ps ← expandParts budget word
        return if quoted then .keep :: ps else ps.map Piece.loosened
      match kind with
      | .alternative => if present then instead else return []
      | .default => if present then return found.getD [] else instead
      | .assign =>
        if present then return found.getD []
        else do
          let ps ← instead
          modify fun s => s.assign name (Piece.chars ps)
          return ps
      | .refuse =>
        if present then return found.getD []
        else do
          let why := Piece.chars (← instead)
          let why := if why.isEmpty then "parameter not set" else String.ofList why
          fail 0 (String.ofList name ++ ": " ++ why) 2
          throw .leave
    | .trim fromEnd longest pattern =>
      let ps ← expandParts budget pattern
      let p := Fit.pattern (ps.filterMap Piece.char?)
      return Piece.ofValue quoted (trimmed fromEnd longest p (Piece.chars (found.getD [])))

/-- The text of a word that is not split. -/
def expandText : Nat → Word → Run (List Char)
  | 0, _ => throw .late
  | budget + 1, w => return Piece.chars (← expandParts budget w)

/-- The words that stand for some words. -/
def expandWords : Nat → List Word → Run (List (List Char))
  | 0, _ => throw .late
  | _, [] => return []
  | budget + 1, w :: ws => do
    let s ← get
    if isOnlyArguments w && s.args.isEmpty then expandWords budget ws
    else
      let ps ← expandParts budget w
      let s ← get
      let first := (fields s.separators .none ps).flatMap (expandField s.files)
      return first ++ (← expandWords budget ws)

/-- Gives variables their values. -/
def assignAll : Nat → Bool → List (List Char × Word) → Run Unit
  | 0, _, _ => throw .late
  | _, _, [] => return ()
  | budget + 1, exported, (name, w) :: as => do
    let value ← expandText budget w
    modify fun s =>
      let s := s.assign name value
      if exported then s.export_ name else s
    assignAll budget exported as

/-- Redirects streams one by one, and tells whether all could be. -/
def redirectAll : Nat → Nat → List Redirect → Run Bool
  | 0, _, _ => throw .late
  | _, _, [] => return true
  | budget + 1, below, r :: rs => do
    let target ← expandText budget r.target
    match (← get).opened r.stream r.direction target with
    | .ok s =>
      set s
      redirectAll budget below rs
    | .error text =>
      fail below text 2
      return false

/-- Runs a simple command. -/
def runSimple : Nat → Nat → List (List Char × Word) → List Word → List Redirect → Run Unit
  | 0, _, _, _, _ => throw .late
  | budget + 1, below, as, ws, rs => do
    match ← expandWords budget ws with
    | [] =>
      assignAll budget false as
      if !(ws.any hasOutput || as.any fun a => hasOutput a.2) then setStatus 0
      withStreams do let _ ← redirectAll budget below rs
    | name :: args =>
      let before ← get
      assignAll budget true as
      if name = "exec".toList && args.isEmpty then
        if ← redirectAll budget below rs then setStatus 0 else throw .leave
      else
        withStreams do
          if ← redirectAll budget below rs then runCommand budget below name args
      if !as.isEmpty then modify fun s => s.restored before (as.map (·.1))

/-- Runs a command by its name. -/
def runCommand : Nat → Nat → List Char → List (List Char) → Run Unit
  | 0, _, _, _ => throw .late
  | budget + 1, below, name, args => do
    let s ← get
    match s.commands.find? fun c => c.1 = name with
    | some (_, body) =>
      set { s with args }
      let ended ← attempt (run budget body)
      modify fun t => { t with args := s.args }
      match ended with
      | none => pure ()
      | some .back => pure ()
      | some f => throw f
    | none =>
      match String.ofList name with
      | ":" => setStatus 0
      | "exit" => leaveWith (← exitCode below "exit" args)
      | "return" => do
        setStatus (← exitCode below "return" args)
        throw .back
      | "break" => do
        setStatus 0
        throw (.skip ((args.head?.bind streamOf?).getD 1) false)
      | "continue" => do
        setStatus 0
        throw (.skip ((args.head?.bind streamOf?).getD 1) true)
      | "cd" => changeDir below args
      | "chdir" => changeDir below args
      | "pwd" =>
        set ((s.write 1 ((s.setting? "PWD".toList).getD s.files.here.toList ++
          ['\n'])).withStatus 0)
      | "export" => declare State.export_ args
      | "readonly" => declare (fun s _ => s) args
      | "local" => declare (fun s _ => s) args
      | "unset" => declare (fun s n => s.unset n) args
      | "shift" => shiftArgs below args
      | "set" => setOptions args
      | "read" => readVariables args
      | "kill" => sendSignal below args
      | "wait" => setStatus 0
      | "trap" => setTrap args
      | "umask" => setStatus 0
      | "ulimit" => setStatus 0
      | "hash" => setStatus 0
      | "eval" => runText budget (State.joined [' '] args)
      | "." =>
        match s.files.read (String.ofList (args.head?.getD [])) with
        | .ok content => runText budget (Text.byteChars content)
        | .error e => do
          fail below (".: " ++ openFault (args.head?.getD []) true e) 2
          throw .leave
      | "exec" =>
        match args with
        | [] => setStatus 0
        | name :: args => do
          match s.findCommand name with
          | .ok _ => runExternal budget below name args
          | .error e =>
            let (why, status) := if e = .notFound then ("not found", 127) else (e.wording, 126)
            fail below ("exec: " ++ String.ofList name ++ ": " ++ why) status
          modify fun s => { s with atExit := none }
          let status := (← get).status
          leaveWith status
      | "command" =>
        match args with
        | [] => setStatus 0
        | ['-', 'v'] :: rest => whereIs (rest.head?.getD [])
        | name :: args => do
          set { s with commands := [] }
          runCommand budget below name args
          modify fun t => { t with commands := s.commands ++ t.commands }
      | text =>
        if builtinUtilities.contains text then runBuiltin below text args
        else runExternal budget below name args

/-- Runs a command that is in a file. -/
def runExternal : Nat → Nat → List Char → List (List Char) → Run Unit
  | 0, _, _, _ => throw .late
  | budget + 1, below, name, args => do
    let s ← get
    let refuse (e : SystemError) : Run Unit :=
      if e = .notFound then fail below (String.ofList name ++ ": not found") 127
      else fail below (String.ofList name ++ ": " ++ e.wording) 126
    match s.findCommand name with
    | .error e => refuse e
    | .ok path =>
      match resolveProgram s.files 6 path args with
      | .ok (utility, args) => runUtility budget name utility args
      | .error .noProgram =>
        asProcess (fun s => s.forProgram path) (runShell budget (path :: args))
      | .error e => refuse e

/-- Runs a utility of the system in a process of its own. -/
def runUtility : Nat → List Char → List Char → List (List Char) → Run Unit
  | 0, _, _, _ => throw .late
  | budget + 1, self, name, args => do
    match String.ofList name with
    | "sh" => asProcess (fun s => s.forProgram self) (runShell budget args)
    | "dash" => asProcess (fun s => s.forProgram self) (runShell budget args)
    | "bash" => asProcess (fun s => s.forProgram self) (runShell budget args)
    | "env" => asProcess (fun s => s.forProgram self) (runEnv budget args)
    | text =>
      match utility? text args (← get) with
      | some t => set t
      | none => setStatus 127
    checkTime

/-- Runs a program in a changed environment, or prints the environment. -/
def runEnv : Nat → List (List Char) → Run Unit
  | 0, _ => throw .late
  | budget + 1, args => do
    match args with
    | [] =>
      modify fun s =>
        (s.write 1 ((s.vars.filter Variable.exported).flatMap fun v =>
          v.name ++ '=' :: v.value ++ ['\n'])).withStatus 0
    | ['-', 'i'] :: rest => do
      modify fun s => { s with vars := [] }
      runEnv budget rest
    | name :: rest =>
      match assignment? name with
      | some (changed, value) => do
        modify fun s => (s.assign changed value).export_ changed
        runEnv budget rest
      | none =>
        let s ← get
        let refuse (e : SystemError) : Run Unit := do
          modify fun s => s.write 2
            ("env: '" ++ String.ofList name ++ "': " ++ e.wording ++ "\n").toList
          setStatus (if e = .notFound then 127 else 126)
        match s.findCommand name with
        | .error e => refuse e
        | .ok path =>
          match resolveProgram s.files 6 path rest with
          | .error e => refuse e
          | .ok (utility, args) => runUtility budget name utility args

/-- Runs the script of a shell, and the command that it left for its end. -/
def runScript : Nat → List Char → Run Unit
  | 0, _ => throw .late
  | budget + 1, script => do
    modify fun s => { s with lines := script.count '\n' }
    let ended ← attempt (runText budget script)
    match ended, (← get).atExit with
    | some (.killed n), _ => throw (.killed n)
    | some .late, _ => throw .late
    | _, none => return ()
    | _, some last =>
      let status := (← get).status
      modify fun s => { s with atExit := none }
      runText budget last
      setStatus status

/-- Runs a shell with arguments. -/
def runShell : Nat → List (List Char) → Run Unit
  | 0, _ => throw .late
  | budget + 1, args => do
    let s ← get
    let start (script self : List Char) (args : List (List Char)) : Run Unit := do
      set { s with self, args }
      runScript budget script
    match args with
    | [] => start (s.pending 0) s.self []
    | ('-' :: option :: options) :: rest =>
      if option = 'e' || options.contains 'e' then set { s with strict := true }
      if option = 'c' || options.contains 'c' then
        match rest with
        | [] => do
          modify fun s => s.write 2 (s.self ++ ": 0: -c requires an argument\n".toList)
          setStatus 2
        | [script] => runScript budget script
        | script :: self :: args => do
          modify fun s => { s with self, args }
          runScript budget script
      else runShell budget rest
    | file :: rest =>
      match s.files.read (String.ofList file) with
      | .ok content => start (Text.byteChars content) file rest
      | .error e => do
        modify fun s => s.write 2
          (s.self ++ (": 0: " ++ openFault file true e ++ "\n").toList)
        setStatus 2

/-- Runs a script, command by command. What was run before a command that cannot be read
stays. -/
def runText : Nat → List Char → Run Unit
  | 0, _ => throw .late
  | budget + 1, cs =>
    match readLine? cs with
    | .ok none => return ()
    | .ok (some (c, rest)) => do
      run budget c
      runText budget rest
    | .error _ => do
      fail 0 "Syntax error" 2
      throw .leave

/-- Runs commands of which each one reads what the one before prints. -/
def runPipe : Nat → List Script → Run Unit
  | 0, _ => throw .late
  | _, [] => return ()
  | budget + 1, [c] => inChild (run budget c)
  | budget + 1, c :: cs => do
    let text ← captured (run budget c)
    fed text (runPipe budget cs)

/-- Runs a loop; the exit code is that of its last round. -/
def runLoop : Nat → Bool → Script → Script → Nat → Run Unit
  | 0, _, _, _, _ => throw .late
  | budget + 1, holds, condition, body, last => do
    let round : Run Unit := do
      tested (run budget condition)
      if ((← get).status = 0) = holds then run budget body else throw (.skip 0 false)
    match ← attempt round with
    | none => runLoop budget holds condition body (← get).status
    | some (.skip 0 _) => setStatus last
    | some (.skip 1 true) => runLoop budget holds condition body 0
    | some (.skip 1 false) => setStatus 0
    | some (.skip (n + 2) again) => throw (.skip (n + 1) again)
    | some f => throw f

/-- Runs a command once for each value of a variable. -/
def runEach : Nat → List Char → List (List Char) → Script → Run Unit
  | 0, _, _, _ => throw .late
  | _, _, [], _ => return ()
  | budget + 1, name, value :: values, body => do
    modify fun s => s.assign name value
    match ← attempt (run budget body) with
    | none => runEach budget name values body
    | some (.skip 0 _) => runEach budget name values body
    | some (.skip 1 true) => runEach budget name values body
    | some (.skip 1 false) => return ()
    | some (.skip (n + 2) again) => throw (.skip (n + 1) again)
    | some f => throw f

/-- Runs the branch of the first pattern that a text fits. -/
def runCases : Nat → List Char → List (List Word × Script) → Run Unit
  | 0, _, _ => throw .late
  | _, _, [] => setStatus 0
  | budget + 1, _, ([], _) :: branches => runCases budget [] branches
  | budget + 1, text, (p :: ps, body) :: branches => do
    let pattern := Fit.pattern ((← expandParts budget p).filterMap Piece.char?)
    if fits pattern text then do
      setStatus 0
      run budget body
    else if ps.isEmpty then runCases budget text branches
    else runCases budget text ((ps, body) :: branches)

/-- Runs a command. -/
def run : Nat → Script → Run Unit
  | 0, _ => throw .late
  | budget + 1, c => do
    let checked (x : Run Unit) : Run Unit := do
      x
      let s ← get
      if s.strict && s.status ≠ 0 then throw .leave
    match c with
    | .empty => return ()
    | .simple below as ws rs => checked (runSimple budget below as ws rs)
    | .pipe true parts => do
      tested <| match parts with
        | [c] => run budget c
        | parts => runPipe budget parts
      setStatus (if (← get).status = 0 then 1 else 0)
    | .pipe false parts => checked (runPipe budget parts)
    | .both a b => do
      tested (run budget a)
      if (← get).status = 0 then run budget b
    | .either a b => do
      tested (run budget a)
      if (← get).status ≠ 0 then run budget b
    | .sequence a b => do
      run budget a
      run budget b
    | .background a => do
      let s ← get
      let _ ← attempt (inChild (fed [] (run budget a)))
      modify fun t => { t with elapsed := s.elapsed }.withStatus 0
    | .subshell a => checked (inChild (run budget a))
    | .redirected a rs =>
      withStreams do
        if ← redirectAll budget 0 rs then run budget a
    | .choice condition yes no => do
      tested (run budget condition)
      if (← get).status = 0 then run budget yes
      else do
        setStatus 0
        run budget no
    | .loop holds condition body => runLoop budget holds condition body 0
    | .each name words body => do
      let values ← match words with
        | some ws => expandWords budget ws
        | none => pure (← get).args
      setStatus 0
      runEach budget name values body
    | .cases word branches => do
      let text ← expandText budget word
      runCases budget text branches
    | .define name body => do
      modify fun s => { s with commands := (name, body) :: s.commands }
      setStatus 0

end

end LintVerdict.Shell
