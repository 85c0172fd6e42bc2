import CrossBuild.Shell.Become
import CrossBuild.Shell.Builtin.Condition
import CrossBuild.Shell.Builtin.Place
import CrossBuild.Shell.Redirect

/-!
# The programs of the machine other than the shell

Each of them is an operation of the process that runs it.  The first argument
is the name that the program was started by, which its reports begin with.
-/
namespace CrossBuild.Shell.Utility

/-! ## 1. Reports and options -/

/-- Reports a fault of a program. -/
def report (name text : String) : ShellM Unit :=
  sayFault (name ++ ": " ++ text ++ "\n")

/-- Reports a fault in how a program was called; the status. -/
def refuse (name text : String) (status : Nat) : ShellM Nat := do
  report name text
  sayFault ("Try '" ++ name ++ " --help' for more information.\n")
  return status

/-- Options and operands. -/
abbrev Call := List (Char × String) × List String

/-- The options in one argument, of which `letters` are left, and the arguments after it. -/
def optionsIn (plain valued : String) : List Char → List String → Except String Call
  | [], rest => .ok ([], rest)
  | c :: letters, rest =>
    if plain.toList.contains c then
      (optionsIn plain valued letters rest).map fun (more, rest) => ((c, "") :: more, rest)
    else if valued.toList.contains c then
      match letters, rest with
      | [], value :: rest => .ok ([(c, value)], rest)
      | [], [] => .error ("option requires an argument -- '" ++ toString c ++ "'")
      | _, _ => .ok ([(c, String.ofList letters)], rest)
    else .error ("invalid option -- '" ++ toString c ++ "'")

/-- The options and the operands among arguments.  The bound is their number. -/
def readCall (plain valued : String) : Nat → List String → Except String Call
  | 0, rest => .ok ([], rest)
  | _ + 1, [] => .ok ([], [])
  | n + 1, word :: rest =>
    match word.toList with
    | ['-', '-'] => .ok ([], rest)
    | '-' :: '-' :: _ => .error ("unrecognized option '" ++ word ++ "'")
    | '-' :: c :: letters => do
      let (options, rest) ← optionsIn plain valued (c :: letters) rest
      let (more, operands) ← readCall plain valued n rest
      return (options ++ more, operands)
    | _ => (readCall plain valued n rest).map fun (options, operands) => (options, word :: operands)

/-- Runs a program with the options and operands of its arguments. -/
def withCall (plain valued name : String) (arguments : List String)
    (body : (Char → Bool) → Call → ShellM Nat) : ShellM Nat := do
  match readCall plain valued (arguments.length + 1) arguments with
  | .error text => refuse name text 1
  | .ok call => body (fun c => call.1.any fun x => x.1 == c) call

/-- Does an operation for each operand; the status is one if any of them failed. -/
def forEach (operation : String → ShellM Bool) (operands : List String) : ShellM Nat := do
  let results ← operands.mapM operation
  return if results.all id then 0 else 1

/-- A name between quotes. -/
def named (name : String) : String :=
  "'" ++ name ++ "'"

/-- Replaces the files if that is possible, and reports the cause otherwise. -/
def change (name doing : String) (result : Except FileError FileTree) : ShellM Bool := do
  match result with
  | .ok t =>
    modifyWorld fun w => { w with files := t }
    return true
  | .error e =>
    report name (doing ++ ": " ++ e.words)
    return false

/-! ## 2. Writing -/

/-- The bytes that a name leads to; a hyphen is the standard input. -/
def contentOf (name : String) : ShellM (Except FileError ByteArray) := do
  let descriptor := if name = "-" then some 0 else descriptorPath? name
  match descriptor with
  | some n => return .ok ((← readAll n).getD ByteArray.empty)
  | none => return (← files).read (← process).directory (pathOf name)

/-- The operands, or the standard input if there are none. -/
def orInput (operands : List String) : List String :=
  if operands.isEmpty then ["-"] else operands

/-- Writes bytes with the output. -/
def sayBytes (data : ByteArray) : ShellM Unit :=
  modifyProcess fun p => { p with buffer := p.buffer ++ data }

/-- Writes the bytes of files. -/
def cat (name : String) (arguments : List String) : ShellM Nat :=
  withCall "u" "" name arguments fun _ (_, operands) =>
    (orInput operands) |> forEach fun file => do
      match ← contentOf file with
      | .error e =>
        report name (file ++ ": " ++ e.words)
        return false
      | .ok data =>
        sayBytes data
        flush

/-- The first bytes of data, up to the end of so many lines. -/
def firstLines (data : ByteArray) (count : Nat) : ByteArray :=
  ⟨(go count data.toList).toArray⟩
where
  /-- The bytes up to the end of so many lines. -/
  go : Nat → List UInt8 → List UInt8
    | 0, _ => []
    | _ + 1, [] => []
    | n + 1, b :: bs => b :: go (if b = 10 then n else n + 1) bs

/-- Writes the first lines of files. -/
def head (name : String) (arguments : List String) : ShellM Nat := do
  let arguments := arguments.map fun word =>
    match word.toList with
    | '-' :: d :: digits => if (d :: digits).all Char.isDigit then "-n" ++ String.ofList (d :: digits) else word
    | _ => word
  withCall "" "nc" name arguments fun _ (options, operands) => do
    let count := ((options.getLast?.map Prod.snd).bind String.toNat?).getD 10
    let isBytes := (options.getLast?.map Prod.fst) == some 'c'
    let operands := orInput operands
    operands |> forEach fun file => do
      match ← contentOf file with
      | .error e =>
        report name ("cannot open " ++ named file ++ " for reading: " ++ e.words)
        return false
      | .ok data =>
        if 1 < operands.length then say ("==> " ++ file ++ " <==\n")
        sayBytes (if isBytes then data.extract 0 count else firstLines data count)
        return true

/-- The numbers of lines, words and bytes of data. -/
def countsOf (data : ByteArray) : Nat × Nat × Nat :=
  let cs := (Octets.ofBytes data).toList
  let starts := (cs.zip (' ' :: cs)).filter fun (c, before) =>
    !Numeral.isSpace c && Numeral.isSpace before
  (cs.count '\n', starts.length, data.size)

/-- Counts the lines, words and bytes of files. -/
def wc (name : String) (arguments : List String) : ShellM Nat :=
  withCall "lwc" "" name arguments fun has (options, operands) => do
    let columns (x : Nat × Nat × Nat) : List Nat :=
      [('l', x.1), ('w', x.2.1), ('c', x.2.2)].filterMap fun (c, n) =>
        if options.isEmpty || has c then some n else none
    let padded (width n : Nat) : String :=
      let digits := toString n
      String.ofList (List.replicate (width - digits.length) ' ') ++ digits
    let contents ← (orInput operands).mapM contentOf
    let total := (contents.filterMap Except.toOption).foldl (fun n d => n + d.size) 0
    let isOne := (columns (0, 0, 0)).length = 1 && operands.length ≤ 1
    let width := if isOne then 1 else if operands.isEmpty then 7 else (toString total).length
    let line (x : Nat × Nat × Nat) (label : String) : String :=
      Text.joinWith " " ((columns x).map (padded width)) ++ label ++ "\n"
    let status ← ((orInput operands).zip contents).mapM fun (file, content) => do
      match content with
      | .error e =>
        report name (file ++ ": " ++ e.words)
        return false
      | .ok data =>
        say (line (countsOf data) (if operands.isEmpty then "" else " " ++ file))
        return true
    if 1 < operands.length then
      let all := contents.filterMap fun c => c.toOption.map countsOf
      say (line (all.foldl (fun x y => (x.1 + y.1, x.2.1 + y.2.1, x.2.2 + y.2.2)) (0, 0, 0)) " total")
    return if status.all id then 0 else 1

/-- Writes words; escapes count only if they are asked for. -/
def echo (arguments : List String) : ShellM Nat := do
  let isOption (word : String) : Bool :=
    match word.toList with
    | '-' :: c :: letters => (c :: letters).all "neE".toList.contains
    | _ => false
  let options := arguments.takeWhile isOption
  let letters := (options.flatMap String.toList).filter (· != '-')
  let hasEscapes := (letters.filter (· != 'n')).getLast? == some 'e'
  let words := arguments.drop options.length
  if hasEscapes then echoWords (!letters.contains 'n') words
  else say (Text.joinWith " " words ++ (if letters.contains 'n' then "" else "\n"))
  return 0

/-! ## 3. Names -/

/-- A name without the separators at its end. -/
def withoutSeparators (name : String) : List Char :=
  let cs := name.toList.reverse
  let kept := cs.dropWhile (· == '/')
  (if kept.isEmpty then cs.take 1 else kept).reverse

/-- The last part of a name. -/
def lastPart (name : String) : String :=
  let cs := withoutSeparators name
  if cs = ['/'] then "/" else String.ofList (cs.reverse.takeWhile (· != '/')).reverse

/-- What stands before the last part of a name. -/
def directoryPart (name : String) : String :=
  let before := (withoutSeparators name).reverse.dropWhile (· != '/')
  if withoutSeparators name = ['/'] then "/"
  else if before.isEmpty then "."
  else
    let kept := before.dropWhile (· == '/')
    if kept.isEmpty then "/" else String.ofList kept.reverse

/-- Writes the last part of a name, perhaps without an ending. -/
def basename (name : String) (arguments : List String) : ShellM Nat :=
  withCall "" "" name arguments fun _ (_, operands) => do
    match operands with
    | [file] =>
      say (lastPart file ++ "\n")
      return 0
    | [file, ending] =>
      let part := lastPart file
      let isCut := Text.endsWith part ending && part != ending
      say ((if isCut then String.ofList (part.toList.take (part.length - ending.length)) else part) ++ "\n")
      return 0
    | [] => refuse name "missing operand" 1
    | _ :: _ :: extra :: _ => refuse name ("extra operand " ++ named extra) 1

/-- Writes what stands before the last part of names. -/
def dirname (name : String) (arguments : List String) : ShellM Nat :=
  withCall "" "" name arguments fun _ (_, operands) => do
    if operands.isEmpty then refuse name "missing operand" 1
    else operands |> forEach fun file => do
      say (directoryPart file ++ "\n")
      return true

/-- Writes the names in directories. -/
def listing (name : String) (arguments : List String) : ShellM Nat :=
  withCall "1aAd" "" name arguments fun has (_, operands) => do
    let operands := if operands.isEmpty then ["."] else operands.mergeSort fun a b => a ≤ b
    let results ← operands.mapM fun file => do
      match ← entryAt file, ← unfollowed? file with
      | .ok e, _ => return some (file, e.isDirectory && !has 'd')
      | .error _, some _ => return some (file, false)
      | .error e, none =>
        report name ("cannot access " ++ named file ++ ": " ++ e.words)
        return none
    let found := results.filterMap id
    let directories := found.filter (·.2)
    let plain := found.filter fun x => !x.2
    plain.forM fun x => say (x.1 ++ "\n")
    let t ← files
    (directories.zipIdx).forM fun ((file, _), i) => do
      if 1 < operands.length then
        say ((if i = 0 && plain.isEmpty then "" else "\n") ++ file ++ ":\n")
      let names := PathPattern.namesIn t (← process).directory file
      (names.mergeSort fun a b => a ≤ b).forM fun entry => do
        let isSpecial := entry = "." || entry = ".."
        let isHidden := entry.toList.head? == some '.'
        if has 'a' || (has 'A' && !isSpecial) || !isHidden then say (entry ++ "\n")
    return if results.all Option.isSome then 0 else 2

/-! ## 4. Changes -/

/-- Makes directories. -/
def mkdir (name : String) (arguments : List String) : ShellM Nat :=
  withCall "p" "m" name arguments fun has (_, operands) => do
    if operands.isEmpty then refuse name "missing operand" 1
    else operands |> forEach fun file => do
      let t ← files
      let directory := (← process).directory
      let doing := "cannot create directory " ++ named file
      if has 'p' then
        match t.makeDirectories directory (pathOf file) with
        | (.ok _, t) => change name doing (.ok t)
        | (.error e, _) => change name doing (.error e)
      else change name doing (t.makeDirectory directory (pathOf file))

/-- The place that a name leads to, where a link in last position counts as itself. -/
def placeOf (file : String) : ShellM (Except FileError Place) := do
  let t ← files
  let p := pathOf file
  match t.walkFrom (← process).directory false p p.segments with
  | .error e => return .error e
  | .ok place => return if (t.lookup? place).isSome then .ok place else .error .notFound

/-- Removes directories that are empty. -/
def rmdir (name : String) (arguments : List String) : ShellM Nat :=
  withCall "" "" name arguments fun _ (_, operands) => do
    if operands.isEmpty then refuse name "missing operand" 1
    else operands |> forEach fun file => do
      let t ← files
      let doing := "failed to remove " ++ named file
      match ← placeOf file with
      | .error e => change name doing (.error e)
      | .ok place =>
        if t.lookup? place ≠ some .directory then change name doing (.error .notADirectory)
        else if !(t.children place).isEmpty then change name doing (.error .notEmpty)
        else change name doing (.ok (t.removeBelow place))

/-- Removes entries. -/
def rm (name : String) (arguments : List String) : ShellM Nat :=
  withCall "rRf" "" name arguments fun has (_, operands) => do
    if operands.isEmpty && !has 'f' then refuse name "missing operand" 1
    else operands |> forEach fun file => do
      let t ← files
      let doing := "cannot remove " ++ named file
      match ← placeOf file with
      | .error e => if has 'f' && e = .notFound then return true else change name doing (.error e)
      | .ok place =>
        if t.lookup? place = some .directory && !(has 'r' || has 'R') then
          change name doing (.error .isADirectory)
        else change name doing (.ok (t.removeBelow place))

/-- Makes files that are missing. -/
def touch (name : String) (arguments : List String) : ShellM Nat :=
  withCall "acm" "" name arguments fun has (_, operands) => do
    if operands.isEmpty then refuse name "missing file operand" 1
    else operands |> forEach fun file => do
      let t ← files
      let directory := (← process).directory
      if t.pathExists directory (pathOf file) || has 'c' then return true
      else
        change name ("cannot touch " ++ named file)
          (t.write directory (pathOf file) ByteArray.empty none)

/-- Gives files permissions. -/
def chmod (name : String) (arguments : List String) : ShellM Nat := do
  match arguments with
  | [] => refuse name "missing operand" 1
  | [mode] => refuse name ("missing operand after " ++ named mode) 1
  | mode :: operands =>
    let cs := mode.toList
    operands |> forEach fun file => do
      let t ← files
      let directory := (← process).directory
      match t.entryAt directory (pathOf file) with
      | .error e =>
        report name ("cannot access " ++ named file ++ ": " ++ e.words)
        return false
      | .ok (.file data executable) =>
        let old := if executable then 493 else 420
        let new :=
          if cs.all isOctal then cs.foldl (fun n c => n * 8 + (c.toNat - '0'.toNat)) 0
          else (changedPermissions old (cs.length + 1) 0 old cs).1
        change name ("changing permissions of " ++ named file)
          (t.write directory (pathOf file) data (some (new &&& 73 != 0)))
      | .ok _ => return true

/-- The names that operands are copied, moved or linked to: into the last one if that is a
directory. -/
def withTargets (name : String) (operands : List String)
    (operation : String → String → ShellM Bool) : ShellM Nat := do
  match operands.reverse with
  | [] => refuse name "missing file operand" 1
  | [file] => refuse name ("missing destination file operand after " ++ named file) 1
  | target :: sources =>
    let isDirectory ← isDirectoryAt target
    if 1 < sources.length && !isDirectory then
      report name ("target " ++ named target ++ ": " ++ (FileError.notADirectory).words)
      return 1
    else sources.reverse |> forEach fun file =>
      operation file (if isDirectory then target ++ "/" ++ lastPart file else target)

/-- Copies a file, and with `isDeep` a directory with everything below it. -/
def copyTo (name : String) (isDeep : Bool) (source target : String) : ShellM Bool := do
  let t ← files
  let directory := (← process).directory
  match t.entryAt directory (pathOf source) with
  | .error e =>
    report name ("cannot stat " ++ named source ++ ": " ++ e.words)
    return false
  | .ok (.file data executable) =>
    let isNew := !t.pathExists directory (pathOf target)
    change name ("cannot create regular file " ++ named target)
      (t.write directory (pathOf target) data (if isNew then some executable else none))
  | .ok _ =>
    if !isDeep then
      report name ("-r not specified; omitting directory " ++ named source)
      return false
    else
      match t.resolve directory (pathOf source), t.makeDirectory directory (pathOf target) with
      | .ok origin, .ok made =>
        match made.resolve directory (pathOf target) with
        | .ok goal =>
          let copied := (t.below origin).foldl (fun t (place, e) => t.put (goal ++ place) e) made
          change name "" (.ok copied)
        | .error e => change name ("cannot create directory " ++ named target) (.error e)
      | .error e, _ | _, .error e =>
        change name ("cannot create directory " ++ named target) (.error e)

/-- Copies files. -/
def cp (name : String) (arguments : List String) : ShellM Nat :=
  withCall "rRpfa" "" name arguments fun has (_, operands) =>
    withTargets name operands (copyTo name (has 'r' || has 'R' || has 'a'))

/-- Moves entries. -/
def move (name : String) (arguments : List String) : ShellM Nat :=
  withCall "f" "" name arguments fun _ (_, operands) =>
    withTargets name operands fun source target => do
      let t ← files
      match ← placeOf source with
      | .error e =>
        report name ("cannot stat " ++ named source ++ ": " ++ e.words)
        return false
      | .ok _ =>
        change name ("cannot move " ++ named source ++ " to " ++ named target)
          (t.rename (← process).directory (pathOf source) (pathOf target))

/-- Makes links. -/
def link (name : String) (arguments : List String) : ShellM Nat :=
  withCall "sf" "" name arguments fun has (_, operands) =>
    withTargets name operands fun source target => do
      let t ← files
      let directory := (← process).directory
      let doing := "failed to create symbolic link " ++ named target
      if !has 's' then copyTo name false source target
      else
        match t.slot directory (pathOf target) with
        | .ok (parent, .named part _) =>
          let place := parent ++ [part]
          if (t.lookup? place).isSome && !has 'f' then change name doing (.error .alreadyExists)
          else change name doing (.ok (t.put place (.link (Octets.toText source))))
        | .ok (_, .special) => change name doing (.error .alreadyExists)
        | .error e => change name doing (.error e)

/-! ## 5. Other programs -/

/-- Splits arguments into the options of `env`, its settings, and the command. -/
def envParts : Nat → (isEmpty : Bool) → (dropped : List String) → List String →
    Bool × List String × List String
  | n + 1, isEmpty, dropped, word :: rest =>
    match word with
    | "-i" | "-" => envParts n true dropped rest
    | "-u" => envParts n isEmpty (rest.headD "" :: dropped) rest.tail
    | "--" => (isEmpty, dropped, rest)
    | _ => (isEmpty, dropped, word :: rest)
  | _, isEmpty, dropped, rest => (isEmpty, dropped, rest)

/-- Shows the environment, or becomes a program with a changed one. -/
def env (perform : Perform) (name : String) (arguments : List String) : ShellM Nat := do
  let (isEmpty, dropped, rest) := envParts arguments.length false [] arguments
  let settings := rest.takeWhile fun word => word.toList.contains '='
  modifyProcess fun p =>
    let kept := if isEmpty then [] else p.bindings.filter fun x => !dropped.contains x.1
    { p with
      bindings := settings.foldl
        (fun vs word =>
          let (key, value) := assignmentOf word
          putVariable key (some { value, isExported := true }) vs) kept }
  match rest.drop settings.length with
  | [] =>
    (← process).environment.forM fun (key, value) => say (key ++ "=" ++ value ++ "\n")
    return 0
  | command =>
    match ← imageFor ((← process).value? "PATH" |>.getD "/bin:/usr/bin") 0 command with
    | .ok image => become perform image
    | .error e =>
      report name (named (command.headD "") ++ ": " ++ e.words)
      return if e = .notFound then 127 else 126

/-- Waits for a time, which takes none here. -/
def sleep (name : String) (arguments : List String) : ShellM Nat := do
  let isTime (word : String) : Bool :=
    let cs := word.toList
    let digits := if cs.getLast?.any "smhd".toList.contains then cs.dropLast else cs
    digits.any Char.isDigit && digits.all fun c => c.isDigit || c == '.'
  match arguments.find? fun word => !isTime word with
  | some word => refuse name ("invalid time interval " ++ named word) 1
  | none => if arguments.isEmpty then refuse name "missing operand" 1 else return 0

end Utility

/-- Runs a program of the machine other than the shell; `status` is what the program leaves
if what it wrote cannot be sent. -/
def runUtility (perform : Perform) (program : SystemProgram) (arguments : List String) : ShellM Nat := do
  let name := arguments.headD program.fileName
  let rest := arguments.tail
  let status ← match program with
    | .shell | .succeeding => pure 0
    | .failing => pure 1
    | .cat => Utility.cat name rest
    | .head => Utility.head name rest
    | .wc => Utility.wc name rest
    | .echo => Utility.echo rest
    | .printf => printf rest
    | .test => test rest
    | .bracketTest => bracketTest rest
    | .basename => Utility.basename name rest
    | .dirname => Utility.dirname name rest
    | .listing => Utility.listing name rest
    | .mkdir => Utility.mkdir name rest
    | .rmdir => Utility.rmdir name rest
    | .rm => Utility.rm name rest
    | .touch => Utility.touch name rest
    | .chmod => Utility.chmod name rest
    | .cp => Utility.cp name rest
    | .move => Utility.move name rest
    | .link => Utility.link name rest
    | .env => Utility.env perform name rest
    | .sleep => Utility.sleep name rest
    | .pwd => do
      say ((← systemName) ++ "\n")
      pure 0
  if ← flush then return status
  else
    Utility.report name "write error: Bad file descriptor"
    return 1

end CrossBuild.Shell
