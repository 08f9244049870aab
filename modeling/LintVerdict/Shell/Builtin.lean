import LintVerdict.Shell.State
import LintVerdict.Shell.Sum

/-!
# Small commands

Commands that print, compare or change files. All of them are functions of the state.

## Main definitions

* `echoText`, `printfText`: what `echo` and `printf` print.
* `condition?`: the value of a test.
* `utility?`: the commands that are programs of their own.
-/

namespace LintVerdict.Shell

/-!
### Printing
-/

/-- An octal digit. -/
def isOctal (c : Char) : Bool := '0' ≤ c && c ≤ '7'

/-- The byte of at most three octal digits, and what follows them. -/
def octal (cs : List Char) : Char × List Char :=
  let ds := (cs.take 3).takeWhile isOctal
  (Char.ofNat (ds.foldl (fun n c => 8 * n + digitOf c) 0 % 256), cs.drop ds.length)

/-- The character of a one-letter escape. -/
def letterEscape? : Char → Option Char
  | 'a' => some '\x07'
  | 'b' => some '\x08'
  | 'f' => some '\x0c'
  | 'n' => some '\n'
  | 'r' => some '\r'
  | 't' => some '\t'
  | 'v' => some '\x0b'
  | '\\' => some '\\'
  | _ => none

/-- A text with its escapes resolved, and whether one of them ends all output. -/
def unescape : Nat → List Char → List Char × Bool
  | 0, _ => ([], false)
  | _, [] => ([], false)
  | budget + 1, '\\' :: c :: rest =>
    let go (cs rest : List Char) : List Char × Bool :=
      let (more, stop) := unescape budget rest
      (cs ++ more, stop)
    if c = 'c' then ([], true)
    else if c = '0' then
      let (b, rest) := octal rest
      go [b] rest
    else
      match letterEscape? c with
      | some d => go [d] rest
      | none => go ['\\', c] rest
  | budget + 1, c :: rest =>
    let (more, stop) := unescape budget rest
    (c :: more, stop)

/-- What `echo` prints. -/
def echoText (args : List (List Char)) : List Char :=
  let (line, args) := match args with
    | ['-', 'n'] :: rest => (false, rest)
    | _ => (true, args)
  let text := State.joined [' '] args
  let (out, stop) := unescape (text.length + 1) text
  if line && !stop then out ++ ['\n'] else out

/-- A text of a width, filled up with blanks on one side. -/
def padded (width : Nat) (left : Bool) (fill : Char) (cs : List Char) : List Char :=
  let more := List.replicate (width - cs.length) fill
  if left then cs ++ List.replicate (width - cs.length) ' ' else more ++ cs

/-- The digits of a number in a base. -/
def basedDigits (base : Nat) (upper : Bool) (n : Nat) : List Char :=
  (Nat.toDigits base n).map fun c => if upper then c.toUpper else c

/-- What a directive prints for an argument, and whether the argument is not fit for it. -/
def directive (kind : Char) (precision : Option Nat) (arg : List Char) :
    List Char × Bool :=
  let number : Option Int := if arg.isEmpty then some 0 else
    match arg with
    | '\'' :: c :: _ => some c.toNat
    | '\x22' :: c :: _ => some c.toNat
    | _ => signedNumber? arg
  match kind with
  | 's' => (match precision with
    | some p => arg.take p
    | none => arg, false)
  | 'b' => ((unescape (arg.length + 1) arg).1, false)
  | 'c' => (arg.take 1, false)
  | 'o' => (basedDigits 8 false (number.getD 0).toNat, number.isNone)
  | 'x' => (basedDigits 16 false (number.getD 0).toNat, number.isNone)
  | 'X' => (basedDigits 16 true (number.getD 0).toNat, number.isNone)
  | _ => ((toString (number.getD 0)).toList, number.isNone)

/-- What is printed so far, the arguments left, whether one was used, the ones not fit for
their directives, and whether all output is over. -/
structure Printed where
  /-- The text, in reverse order. -/
  out : List Char
  /-- The arguments left. -/
  args : List (List Char)
  /-- Whether an argument was used. -/
  used : Bool
  /-- The arguments that are no numbers. -/
  unfit : List (List Char)
  /-- Whether all output is over. -/
  stop : Bool

/-- Goes through a format once. -/
def printfOnce : Nat → Printed → List Char → Printed
  | 0, p, _ => p
  | _, p, [] => p
  | budget + 1, p, '\\' :: c :: rest =>
    if c = 'c' then { p with stop := true }
    else if isOctal c then
      let (b, rest) := octal (c :: rest)
      printfOnce budget { p with out := b :: p.out } rest
    else
      match letterEscape? c with
      | some d => printfOnce budget { p with out := d :: p.out } rest
      | none => printfOnce budget { p with out := c :: '\\' :: p.out } rest
  | budget + 1, p, '%' :: '%' :: rest => printfOnce budget { p with out := '%' :: p.out } rest
  | budget + 1, p, '%' :: rest =>
    let (flags, rest) := rest.span fun c => c = '-' || c = '0' || c = '+' || c = ' ' || c = '#'
    let (width, rest) := rest.span fun c => '0' ≤ c && c ≤ '9'
    let (precision, rest) := match rest with
      | '.' :: rest =>
        let (ds, rest) := rest.span fun c => '0' ≤ c && c ≤ '9'
        (some ((inBase 10 ds).getD 0), rest)
      | _ => (none, rest)
    match rest with
    | [] => p
    | kind :: rest =>
      let arg := p.args.head?.getD []
      let (text, unfit) := directive kind precision arg
      let isNumber := kind ≠ 's' && kind ≠ 'b' && kind ≠ 'c'
      let fill := if flags.contains '0' && isNumber then '0' else ' '
      let text := padded ((inBase 10 width).getD 0) (flags.contains '-') fill text
      printfOnce budget
        { p with
          out := text.reverse ++ p.out
          args := p.args.drop 1
          used := p.used || !p.args.isEmpty
          unfit := if unfit then p.unfit ++ [arg] else p.unfit } rest
  | budget + 1, p, c :: rest => printfOnce budget { p with out := c :: p.out } rest

/-- Goes through a format until all arguments are used. -/
def printfAll (format : List Char) : Nat → Printed → Printed
  | 0, p => p
  | budget + 1, p =>
    let p := printfOnce (format.length + 1) { p with used := false } format
    if p.args.isEmpty || !p.used || p.stop then p else printfAll format budget p

/-- What `printf` prints, and the arguments that should be numbers and are not. -/
def printfText (format : List Char) (args : List (List Char)) :
    List Char × List (List Char) :=
  let p := printfAll format (args.length + 1) ⟨[], args, false, [], false⟩
  (p.out.reverse, p.unfit)

/-!
### Tests
-/

/-- The value of a test of a file or text. -/
def unaryTest (s : State) (op : String) (arg : List Char) : Option Bool :=
  let path := String.ofList arg
  let size := (s.files.read path).toOption.map ByteArray.size
  match op with
  | "-n" => some !arg.isEmpty
  | "-z" => some arg.isEmpty
  | "-e" => some (s.files.has path)
  | "-f" => some (s.files.isFile path)
  | "-d" => some (s.files.isDir path)
  | "-r" => some (s.files.has path)
  | "-w" => some (s.files.has path)
  | "-x" => some (s.files.isProgram path || s.files.isDir path)
  | "-s" => some (s.files.isDir path || size.any fun n => n ≠ 0)
  | "-h" => some ((s.files.linkNode path).toOption.any fun n => !n.2.isDir && !n.2.isFile)
  | "-L" => some ((s.files.linkNode path).toOption.any fun n => !n.2.isDir && !n.2.isFile)
  | "-t" => some false
  | _ => none

/-- The value of a comparison. -/
def binaryTest (op : String) (a b : List Char) : Option (Option Bool) :=
  let compare (f : Int → Int → Bool) : Option (Option Bool) :=
    some (do return f (← signedNumber? a) (← signedNumber? b))
  match op with
  | "=" => some (some (a = b))
  | "!=" => some (some (a ≠ b))
  | "<" => some (some (a < b))
  | ">" => some (some (b < a))
  | "-eq" => compare fun x y => x = y
  | "-ne" => compare fun x y => x ≠ y
  | "-lt" => compare fun x y => x < y
  | "-le" => compare fun x y => x ≤ y
  | "-gt" => compare fun x y => y < x
  | "-ge" => compare fun x y => y ≤ x
  | _ => none

mutual

/-- Reads a test with `-o` between its parts. -/
def testOr (s : State) : Nat → List (List Char) → Option (Bool × List (List Char))
  | 0, _ => none
  | budget + 1, ts => do
    let (a, rest) ← testAnd s budget ts
    match rest with
    | ['-', 'o'] :: rest =>
      let (b, rest) ← testOr s budget rest
      return (a || b, rest)
    | _ => return (a, rest)

/-- Reads a test with `-a` between its parts. -/
def testAnd (s : State) : Nat → List (List Char) → Option (Bool × List (List Char))
  | 0, _ => none
  | budget + 1, ts => do
    let (a, rest) ← testOne s budget ts
    match rest with
    | ['-', 'a'] :: rest =>
      let (b, rest) ← testAnd s budget rest
      return (a && b, rest)
    | _ => return (a, rest)

/-- Reads a single test. -/
def testOne (s : State) : Nat → List (List Char) → Option (Bool × List (List Char))
  | 0, _ => none
  | budget + 1, ts =>
    let binary := match ts with
      | a :: op :: b :: rest =>
        (binaryTest (String.ofList op) a b).map fun v => v.map fun v => (v, rest)
      | _ => none
    match binary with
    | some v => v
    | none =>
      match ts with
      | ['!'] :: t :: rest => (testOne s budget (t :: rest)).map fun (b, rest) => (!b, rest)
      | ['('] :: rest =>
        match testOr s budget rest with
        | some (b, [')'] :: rest) => some (b, rest)
        | _ => none
      | op :: a :: rest =>
        match unaryTest s (String.ofList op) a with
        | some b => some (b, rest)
        | none => some (!op.isEmpty, a :: rest)
      | [a] => some (!a.isEmpty, [])
      | [] => none

end

/-- The value of a test; nothing if it is not well formed. -/
def condition? (s : State) (args : List (List Char)) : Option Bool :=
  match args with
  | [] => some false
  | _ =>
    match testOr s (4 * args.length + 4) args with
    | some (b, []) => some b
    | _ => none

/-- What is wrong with a test that has no value: a number that is none, or the first argument. -/
def testFault (args : List (List Char)) : String :=
  match args with
  | a :: op :: b :: _ =>
    match binaryTest (String.ofList op) a b with
    | some none =>
      "Illegal number: " ++ String.ofList (if (signedNumber? a).isNone then a else b)
    | _ => String.ofList a ++ ": unexpected operator"
  | a :: _ => String.ofList a ++ ": unexpected operator"
  | [] => "argument expected"

/-!
### Programs
-/

/-- The milliseconds of a duration: digits, perhaps a fraction, perhaps a unit. -/
def duration? (cs : List Char) : Option Nat :=
  let (digits, unit) := cs.span fun c => ('0' ≤ c && c ≤ '9') || c = '.'
  let factor := match unit with
    | [] => some 1
    | ['s'] => some 1
    | ['m'] => some 60
    | ['h'] => some 3600
    | ['d'] => some 86400
    | _ => none
  let (whole, point) := digits.span (· ≠ '.')
  let frac := ((point.drop 1) ++ ['0', '0', '0']).take 3
  if digits.isEmpty then none
  else do return (1000 * (← inBase 10 whole) + (← inBase 10 frac)) * (← factor)

/-- The arguments that are options, and the others. -/
def splitOptions : List (List Char) → List Char × List (List Char)
  | ['-', '-'] :: rest => ([], rest)
  | ('-' :: c :: cs) :: rest =>
    let (options, args) := splitOptions rest
    (c :: cs ++ options, args)
  | args => ([], args)

/-- The complaint of a program about a file. -/
def fileFault (program : String) (path : List Char) (e : SystemError) : List Char :=
  program.toList ++ [':', ' '] ++ path ++ (": " ++ e.wording ++ "\n").toList

/-- Changes files one by one and complains about those that cannot be changed. The complaint
says what could not be done. -/
def forEach (undone : String) (change : Files → SystemText → Except SystemError Files)
    (paths : List (List Char)) (s : State) : State :=
  paths.foldl
    (fun s p =>
      match change s.files (String.ofList p) with
      | .ok files => { s with files }
      | .error e =>
        let quoted := '\'' :: p ++ ['\'']
        (s.write 2 (undone.toList ++ ' ' :: quoted ++
          (": " ++ e.wording ++ "\n").toList)).withStatus 1)
    (s.withStatus 0)

/-- Prints the contents of files, of the input where a dash or nothing stands for it. -/
def cat (paths : List (List Char)) (s : State) : State :=
  (if paths.isEmpty then [['-']] else paths).foldl
    (fun s p =>
      if p = ['-'] then (s.consumed 0 []).write 1 (s.pending 0)
      else
        match s.files.read (String.ofList p) with
        | .ok content => s.write 1 (Text.byteChars content)
        | .error e => (s.write 2 (fileFault "cat" p e)).withStatus 1)
    (s.withStatus 0)

/-- Whether a mode lets files be run, if it says so. -/
def executableMode? (mode : List Char) : Option Bool :=
  match inBase 8 mode with
  | some n => some (n / 64 % 2 = 1 || n / 8 % 2 = 1 || n % 2 = 1)
  | none =>
    if mode.contains 'x' then
      if mode.contains '+' || mode.contains '=' then some true else some false
    else none

/-- Prints the names in directories. -/
def listNames (paths : List (List Char)) (s : State) : State :=
  (if paths.isEmpty then [['.']] else paths).foldl
    (fun s p =>
      match s.files.node (String.ofList p) with
      | .ok (.dir entries) =>
        let names := (entries.map (·.1)).mergeSort fun a b => decide (a ≤ b)
        let shown := (names.map String.toList).filter fun n => n.head? ≠ some '.'
        s.write 1 (shown.flatMap fun n => n ++ ['\n'])
      | .ok _ => s.write 1 (p ++ ['\n'])
      | .error e =>
        (s.write 2 ("ls: cannot access '".toList ++ p ++
          ("': " ++ e.wording ++ "\n").toList)).withStatus 2)
    (s.withStatus 0)

/-- The path of a file that is put under a name or into a directory. -/
def targetPath (files : Files) (source target : SystemText) : SystemText :=
  if files.isDir target then FilePath.join target (FilePath.lastName source) else target

/-- Copies a file with its permission to be run. -/
def copyFile (files : Files) (source target : SystemText) : Except SystemError Files := do
  match ← files.node source with
  | .file content x =>
    let path := targetPath files source target
    let files ← files.write path false content
    files.setExecutable path x
  | _ => .error .isDirectory

/-- The name of the last part of a path, or what is before it. -/
def pathPart (last : Bool) (cs : List Char) : List Char :=
  let path := String.ofList cs
  if last then (FilePath.lastName path).toList
  else
    match FilePath.parent? path with
    | some "" => ['.']
    | some p => p.toList
    | none => if FilePath.isAbsolute path then ['/'] else ['.']

/-- The programs that the system holds. -/
def utilityNames : List String :=
  ["sh", "dash", "bash", "env", "cat", "sleep", "chmod", "mkdir", "rm", "rmdir", "touch", "cp",
    "mv", "ln", "ls", "echo", "printf", "test", "[", "true", "false", "pwd", "basename",
    "dirname", "head", "tail", "wc", "tee", "seq"]

/-- The lines of a text with their ends. -/
def wholeLines (cs : List Char) : List (List Char) :=
  let pieces := Text.splitChars '\n' cs
  (pieces.dropLast.map (· ++ ['\n'])) ++ (pieces.getLast?.toList.filter fun l => !l.isEmpty)

/-- The text that a program reads: its files or its input. -/
def inputText (paths : List (List Char)) (s : State) : List Char :=
  if paths.isEmpty then s.pending 0
  else paths.flatMap fun p =>
    Text.byteChars ((s.files.read (String.ofList p)).toOption.getD ByteArray.empty)

/-- The number of lines that the options of `head` or `tail` ask for. -/
def lineCount (args : List (List Char)) : Nat × List (List Char) :=
  match args with
  | ['-', 'n'] :: n :: rest => ((inBase 10 n).getD 10, rest)
  | ('-' :: 'n' :: n) :: rest => ((inBase 10 n).getD 10, rest)
  | ('-' :: n) :: rest => ((inBase 10 n).getD 10, rest)
  | _ => (10, args)

/-- What a program of the system does, for those that start no others. -/
def utility? (name : String) (args : List (List Char)) (s : State) : Option State :=
  let (options, paths) := splitOptions args
  let print (cs : List Char) : Option State := some ((s.write 1 cs).withStatus 0)
  match name with
  | "true" => some (s.withStatus 0)
  | "false" => some (s.withStatus 1)
  | "echo" => print (echoText args)
  | "printf" => print (printfText (args.head?.getD []) args.tail).1
  | "test" => some (s.withStatus (match condition? s args with
    | some b => if b then 0 else 1
    | none => 2))
  | "[" => some (s.withStatus (match condition? s args.dropLast with
    | some b => if b then 0 else 1
    | none => 2))
  | "pwd" => print (s.files.here.toList ++ ['\n'])
  | "cat" => some (cat paths s)
  | "sleep" =>
    match args.mapM duration? with
    | some (d :: ds) => some ((s.wait ((d :: ds).foldl (· + ·) 0)).withStatus 0)
    | _ => some ((s.write 2 ("sleep: invalid time interval\n".toList)).withStatus 1)
  | "chmod" =>
    match args with
    | mode :: paths =>
      match executableMode? mode with
      | some x => some (forEach "chmod: cannot access" (fun f p => f.setExecutable p x) paths s)
      | none => some (s.withStatus 0)
    | [] => some (s.withStatus 1)
  | "mkdir" =>
    some (forEach "mkdir: cannot create directory" (if options.contains 'p' then Files.makeDirs else Files.makeDir) paths s)
  | "rmdir" => some (forEach "rmdir: failed to remove" Files.removeDir paths s)
  | "rm" =>
    let removal := if options.contains 'r' || options.contains 'R' then Files.removeAll else Files.remove
    let quiet (f : Files) (p : SystemText) : Except SystemError Files :=
      match removal f p with
      | .error .notFound => if options.contains 'f' then .ok f else .error .notFound
      | r => r
    some (forEach "rm: cannot remove" quiet paths s)
  | "touch" =>
    some (forEach "touch: cannot touch"
      (fun f p => if f.isDir p then .ok f else f.write p true ByteArray.empty) paths s)
  | "cp" =>
    match paths.getLast? with
    | some target =>
      some (forEach "cp: cannot stat" (fun f p => copyFile f p (String.ofList target)) paths.dropLast s)
    | none => some (s.withStatus 1)
  | "mv" =>
    match paths.getLast? with
    | some target =>
      some (forEach "mv: cannot stat" (fun f p => f.rename p (targetPath f p (String.ofList target)))
        paths.dropLast s)
    | none => some (s.withStatus 1)
  | "ln" =>
    match paths with
    | [source, target] =>
      some (forEach "ln: failed to create link"
        (fun f t =>
          let path := targetPath f (String.ofList source) t
          if options.contains 's' then f.makeLink (String.ofList source) path
          else copyFile f (String.ofList source) path)
        [target] s)
    | _ => some (s.withStatus 1)
  | "ls" => some (listNames paths s)
  | "basename" =>
    let name := pathPart true (paths.head?.getD [])
    let ending := (paths.tail.head?).getD []
    let isEnding := ending.isSuffixOf name && ending ≠ name
    print (name.take (if isEnding then name.length - ending.length else name.length) ++ ['\n'])
  | "dirname" => print (pathPart false (paths.head?.getD []) ++ ['\n'])
  | "head" =>
    let (n, paths) := lineCount args
    print ((wholeLines (inputText paths s)).take n).flatten
  | "tail" =>
    let (n, paths) := lineCount args
    let lines := wholeLines (inputText paths s)
    print (lines.drop (lines.length - n)).flatten
  | "wc" =>
    let text := inputText paths s
    let count := if options.contains 'l' then text.count '\n' else text.length
    print (State.digits count ++ ['\n'])
  | "tee" =>
    let text := s.pending 0
    let append := options.contains 'a'
    some (forEach "tee:" (fun f p => f.write p append (Text.ofByteChars text)) paths
      ((s.consumed 0 []).write 1 text))
  | "seq" =>
    let numbers := args.filterMap signedNumber?
    let (first, last) := match numbers with
      | [n] => (1, n)
      | [a, b] => (a, b)
      | _ => (1, 0)
    print ((List.range (last - first + 1).toNat).flatMap fun (i : Nat) =>
      (toString (first + (i : Int))).toList ++ ['\n'])
  | _ => none

end LintVerdict.Shell
