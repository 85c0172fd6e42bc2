import CrossBuild.Shell.Expansion
import CrossBuild.Shell.Location

/-!
# Redirections

The names of all targets are expanded first; then the targets are opened from
the left.  A target that cannot be opened is a fault, but what was redirected
before it stays so until the command is over.
-/
namespace CrossBuild.Shell

/-- A target whose name is expanded. -/
inductive Source where
  /-- A file. -/
  | file (opening : Opening) (name : String)
  /-- What another descriptor leads to; without one it is closed. -/
  | copy (descriptor : Option Nat)
  /-- A document. -/
  | document (text : Word) (expands : Bool)

/-- The descriptor that a text names. -/
def descriptorOf (text : String) : ShellM (Option Nat) := do
  match text.toList with
  | [c] => if c.isDigit then return some (c.toNat - '0'.toNat)
  | _ => pure ()
  if text = "-" then return none
  modifyProcess fun p => { p with faultLine := p.readLine }
  fail "Syntax error: Bad fd number"

/-- Expands the names of targets. -/
def expandTargets (perform : Perform) (redirections : List Redirection) :
    ShellM (List (Nat × Source)) :=
  redirections.mapM fun (.mk descriptor target) => do
    match target with
    | .file opening name => return (descriptor, .file opening (← expandText perform name))
    | .copy source => return (descriptor, .copy source)
    | .copyNamed name => return (descriptor, .copy (← descriptorOf (← expandText perform name)))
    | .document number expands =>
      return (descriptor, .document ((← process).documents.getD number []) expands)

/-- The descriptor that a path stands for. -/
def descriptorPath? (name : String) : Option Nat :=
  match name with
  | "/dev/stdin" => some 0
  | "/dev/stdout" => some 1
  | "/dev/stderr" => some 2
  | _ =>
    match name.toList with
    | '/' :: 'd' :: 'e' :: 'v' :: '/' :: 'f' :: 'd' :: '/' :: digits =>
      if digits.all Char.isDigit then (String.ofList digits).toNat? else none
    | _ => none

/-- The system's words for a cause, where a missing part of a path has other words. -/
def faultWords (missing : String) (e : FileError) : String :=
  if e = .notFound || e = .notADirectory then missing else e.words

/-- Opens a file to read. -/
def openToRead (name : String) : ShellM Stream := do
  let p ← process
  let t ← files
  let path : Path := ⟨Octets.toText name⟩
  match t.resolve p.directory path with
  | .error e => fail ("cannot open " ++ name ++ ": " ++ faultWords "No such file" e)
  | .ok place =>
    if place = nullPlace then return .null
    else
      match t.lookup? place with
      | some (.file _ _) => return .file place 0 true false false
      | some _ => return .directory
      | none => fail ("cannot open " ++ name ++ ": No such file")

/-- Opens a file to write, which is made if it was absent. -/
def openToWrite (opening : Opening) (name : String) : ShellM Stream := do
  let p ← process
  let t ← files
  let path : Path := ⟨Octets.toText name⟩
  let refuse (e : FileError) : ShellM Stream :=
    fail ("cannot create " ++ name ++ ": " ++ faultWords "Directory nonexistent" e)
  let isProtected := opening == .write && p.has .noclobber
  match t.resolve p.directory path with
  | .error e => refuse e
  | .ok place =>
    if place = nullPlace then return .null
    else
      let isFile : Bool := match t.lookup? place with
        | some (.file _ _) => true
        | _ => false
      let isLink : Bool := !isFile && PathPattern.leadsSomewhere t p.directory name &&
        (t.lookup? place).isNone
      if isProtected && (isFile || isLink) then refuse .alreadyExists
      else
        let keeps := opening == .append || opening == .readWrite
        let old := match t.lookup? place with
          | some (.file data _) => if keeps then data else ByteArray.empty
          | _ => ByteArray.empty
        match t.write p.directory path old none with
        | .error e => refuse e
        | .ok t =>
          modifyWorld fun w => { w with files := t }
          return .file place 0 (opening == .readWrite) true (opening == .append)

/-- Opens a target for a descriptor; the number of the stream, and none if the descriptor is
closed.  A descriptor that is to be restored is put aside before another one is copied. -/
def openSource (perform : Perform) (isRestored : Bool) (descriptor : Nat) :
    Source → ShellM (Option Nat)
  | .copy none => return none
  | .copy (some n) => do
    match ← streamNumber? n with
    | some i => return some i
    | none =>
      if isRestored then modifyProcess fun p => p.detach descriptor
      fail (toString n ++ ": Bad file descriptor")
  | .document text expands => do
    let content ← if expands then expandDocument perform text else pure (String.ofList text.unquoted)
    return some (← newStream (.source (Octets.toBytes content) 0))
  | .file opening name => do
    match descriptorPath? name with
    | some n =>
      match ← streamNumber? n with
      | some i => return some i
      | none =>
        fail ((if opening == .read then "cannot open " else "cannot create ") ++ name ++
          (if opening == .read then ": No such file" else ": Directory nonexistent"))
    | none =>
      let s ← if opening == .read then openToRead name else openToWrite opening name
      return some (← newStream s)

/-- Redirects descriptors, from the left, for good or to be restored afterwards. -/
def redirect (perform : Perform) (isRestored : Bool) (sources : List (Nat × Source)) :
    ShellM Unit :=
  sources.forM fun (descriptor, source) => do
    let isSame : Bool := match source with
      | .copy (some n) => n == descriptor
      | _ => false
    if !isSame then
      match ← openSource perform isRestored descriptor source with
      | some i => modifyProcess fun p => p.attach descriptor i
      | none => modifyProcess fun p => p.detach descriptor

/-- What the descriptors of redirections lead to now. -/
def savedDescriptors (sources : List (Nat × Source)) : ShellM (List (Nat × Option Nat)) := do
  let p ← process
  return sources.map fun x => (x.1, p.descriptors.lookup x.1)

/-- Makes descriptors lead again to what they led to before. -/
def restoreDescriptors (saved : List (Nat × Option Nat)) : ShellM Unit :=
  modifyProcess fun p => saved.foldl
    (fun p x =>
      match x.2 with
      | some i => p.attach x.1 i
      | none => p.detach x.1) p

end CrossBuild.Shell
