/-!
# Trees of files

A tree of directories, files and links, as a finite map from places to
entries.  A place is the list of names that leads to it from the root; the
root is a directory in every tree.  What a path text denotes in a tree is
the subject of `CrossBuild.Files.Lookup`.

`lookup?_put` and `lookup?_removeBelow` say what the two changes that a tree
knows do to every place.
-/
namespace CrossBuild

/-- The names that lead from the root to an entry. -/
abbrev Place := List String

/-- Bytes are compared one by one. -/
instance (priority := high) bytesDecidableEq : DecidableEq ByteArray := fun a b =>
  decidable_of_iff (a.data = b.data) ⟨ByteArray.ext, fun h => h ▸ rfl⟩

/-- What stands at a place. -/
inductive Entry where
  /-- A directory; its contents are the places below it. -/
  | directory
  /-- A file, with its bytes and whether it may be run. -/
  | file (data : ByteArray) (executable : Bool)
  /-- A symbolic link, with the path text that it holds. -/
  | link (target : String)
  deriving DecidableEq, Inhabited

namespace Entry

/-- Whether the entry is a directory. -/
def isDirectory : Entry → Bool
  | directory => true
  | _ => false

end Entry

/-- A tree of files. -/
structure FileTree where
  /-- The entries other than the root, each with its place. -/
  entries : List (Place × Entry)
  deriving Inhabited

namespace FileTree

/-- The tree that has only the root. -/
def empty : FileTree := ⟨[]⟩

/-- The entry at a place. -/
def lookup? (t : FileTree) (p : Place) : Option Entry :=
  if p = [] then some .directory else t.entries.lookup p

/-- Puts an entry at a place, in the stead of the one that stood there. -/
def put (t : FileTree) (p : Place) (e : Entry) : FileTree :=
  ⟨(p, e) :: t.entries.filter fun x => x.1 != p⟩

/-- Removes a place and everything below it. -/
def removeBelow (t : FileTree) (p : Place) : FileTree :=
  ⟨t.entries.filter fun x => !p.isPrefixOf x.1⟩

/-- Whether two places are in the order of their path texts. -/
def inOrder (p q : Place) : Bool :=
  decide ("/".intercalate p ≤ "/".intercalate q)

/-- Everything below a place, named from there, in the order of the path texts. -/
def below (t : FileTree) (p : Place) : List (Place × Entry) :=
  let inside := t.entries.filterMap fun x =>
    if p.isPrefixOf x.1 && x.1 != p then some (x.1.drop p.length, x.2) else none
  inside.mergeSort fun x y => inOrder x.1 y.1

/-- The names of the entries directly below a place, in order. -/
def children (t : FileTree) (p : Place) : List String :=
  (t.below p).filterMap fun x =>
    match x.1 with
    | [name] => some name
    | _ => none

/-- The place of an entry after everything at `source` has moved to `target`. -/
def movedPlace (source target p : Place) : Place :=
  if source.isPrefixOf p then target ++ p.drop source.length else p

/-- Moves a place and everything below it.  Whatever stood at the target is gone. -/
def move (t : FileTree) (source target : Place) : FileTree :=
  ⟨(t.removeBelow target).entries.map fun x => (movedPlace source target x.1, x.2)⟩

/-- The root is a directory. -/
@[simp]
theorem lookup?_nil (t : FileTree) : t.lookup? [] = some .directory := rfl

/-- Keeping the entries at some places keeps what stands there, and empties all others. -/
theorem lookup_filter (keep : Place → Bool) (l : List (Place × Entry)) (q : Place) :
    (l.filter fun x => keep x.1).lookup q = if keep q then l.lookup q else none := by
  induction l with
  | nil => simp
  | cons x l ih =>
    obtain ⟨r, e⟩ := x
    by_cases hq : q = r
    · subst hq
      by_cases hk : keep q = true
      · simp [hk]
      · simp [hk] at ih ⊢
        exact ih
    · have hb : (q == r) = false := by simp [hq]
      by_cases hk : keep r = true
      · simp [hk, List.lookup_cons, hb, ih]
      · simp [hk, List.lookup_cons, hb, ih]

/-- Putting an entry changes what stands at its place, and nothing else. -/
theorem lookup?_put {t : FileTree} {p q : Place} {e : Entry} (hp : p ≠ []) :
    (t.put p e).lookup? q = if q = p then some e else t.lookup? q := by
  by_cases hq : q = p
  · subst hq
    simp [lookup?, put, hp]
  · by_cases hn : q = []
    · subst hn
      simp [lookup?, Ne.symm hp]
    · have hb : (q == p) = false := by simp [hq]
      have hf := lookup_filter (fun r => r != p) t.entries q
      simp only [bne, hb, Bool.not_false, if_true] at hf
      simp [lookup?, put, List.lookup_cons, hb, hq, hn, bne, hf]

/-- Removing a place empties it and what is below it, and changes nothing else. -/
theorem lookup?_removeBelow {t : FileTree} {p q : Place} (hp : p ≠ []) :
    (t.removeBelow p).lookup? q = if p.isPrefixOf q then none else t.lookup? q := by
  by_cases hn : q = []
  · subst hn
    cases p with
    | nil => exact absurd rfl hp
    | cons a p => simp [lookup?, List.isPrefixOf]
  · have hf := lookup_filter (fun r => !p.isPrefixOf r) t.entries q
    rw [lookup?, if_neg hn, lookup?, if_neg hn, removeBelow, hf]
    cases p.isPrefixOf q <;> rfl

end FileTree

end CrossBuild
