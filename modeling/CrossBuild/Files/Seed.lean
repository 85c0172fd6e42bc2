import CrossBuild.Machine
import CrossBuild.SystemProgram

/-!
# Laying out files

Files, directories and links to be made on a machine, each with the
directories above it.
-/
namespace CrossBuild

/-- An entry to be made. -/
inductive Seed where
  /-- A directory. -/
  | directory (path : Path)
  /-- A file. -/
  | file (path : Path) (data : ByteArray) (executable : Bool)
  /-- A symbolic link. -/
  | link (path : Path) (target : String)

namespace Seed

/-- Where the entry is made. -/
def path : Seed → Path
  | directory path | file path _ _ | link path _ => path

/-- Makes a link, unless something is there. -/
def makeLink (t : FileTree) (directory : Place) (p : Path) (target : String) :
    Except FileError FileTree :=
  match t.slot directory p with
  | .error e => .error e
  | .ok (_, .special) => .error .alreadyExists
  | .ok (parent, .named name _) =>
    let place := parent ++ [name]
    if (t.lookup? place).isSome then .error .alreadyExists else .ok (t.put place (.link target))

/-- Makes the entry below a root, with the directories above it. -/
def plant (root : Path) (s : Seed) : Operation Unit := do
  let path := root.join s.path
  match s with
  | directory _ => ensureDirectory path
  | file _ data executable =>
    path.parent?.toList.forM fun parent => ensureDirectory parent
    changeFiles (.readFile path) fun t cwd => t.write cwd path data (some executable)
  | link _ target =>
    path.parent?.toList.forM fun parent => ensureDirectory parent
    changeFiles (.readFile path) fun t cwd => makeLink t cwd path target

end Seed

namespace Machine

/-- The machine after an operation that cannot be undone, whether or not it failed. -/
def after {ε α : Type} (m : Machine) (operation : ExceptT ε MachineM α) : Machine :=
  (operation.run m).2

/-- A machine with the directories that every system has, and its programs. -/
def bare : Machine :=
  let programs := SystemProgram.all.map fun p => Seed.file ⟨"/usr/bin/" ++ p.fileName⟩ p.image true
  let seeds : List Seed :=
    programs ++
      [.link ⟨"/bin"⟩ "usr/bin", .file ⟨"/dev/null"⟩ ByteArray.empty false,
        .directory ⟨"/etc"⟩, .directory ⟨"/root"⟩, .directory ⟨"/tmp"⟩]
  after { files := FileTree.empty } (seeds.forM (Seed.plant ⟨"/"⟩))

/-- Everything below a directory, links not followed; nothing if it is no directory. -/
def listing (m : Machine) (p : Path) : List (String × Entry) :=
  match m.files.resolve m.directory p with
  | .ok place =>
    if m.files.lookup? place = some .directory then
      (m.files.below place).map fun x => ("/".intercalate x.1, x.2)
    else []
  | .error _ => []

end Machine

end CrossBuild
