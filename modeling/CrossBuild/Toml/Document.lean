import CrossBuild.Toml.Lexeme

/-!
# Configuration files

The reader for values with parts, and for whole TOML files.  A file is a
sequence of lines: assignments, and headers that say which table the
assignments after them belong to.

Tables that a file mentions but does not define are made on the way, and
`Origin` remembers how each came to be: a table is opened by one header at
most, and a dotted key adds only to tables that dotted keys made.
-/
namespace CrossBuild.Toml

/-- The entries of a table. -/
abbrev Entries := List (String × Value)

/-- Sets an entry that is there, or adds it at the end. -/
def setEntry : Entries → String → Value → Entries
  | [], k, v => [(k, v)]
  | (k', v') :: rest, k, v =>
    if k' = k then (k, v) :: rest else (k', v') :: setEntry rest k v

/-! ## 1. Adding to tables -/

/-- Adds an assignment to the entries of a table.  The parts of a dotted key but
the last name tables, which are made when they are absent, and which have to
be such made ones in the end. -/
def assign : List KeyPart → Value → Entries → Option Entries
  | [], _, _ => none
  | [k], v, entries =>
    if (entries.lookup k.text).isSome then none else some (setEntry entries k.text v)
  | k :: k' :: ks, v, entries =>
    match entries.lookup k.text with
    | none => (assign (k' :: ks) v []).map fun inner =>
        setEntry entries k.text (.table k.span .dotted inner)
    | some (.table span .dotted inner) =>
      (assign (k' :: ks) v inner).map fun inner =>
        setEntry entries k.text (.table span .dotted inner)
    | some (.table span .implied inner) =>
      if ks.isEmpty then none
      else (assign (k' :: ks) v inner).map fun inner =>
        setEntry entries k.text (.table span .implied inner)
    | some (.tables tables) =>
      match tables.getLast? with
      | some (.table span origin inner) =>
        if ks.isEmpty then none
        else (assign (k' :: ks) v inner).map fun inner =>
          setEntry entries k.text (.tables (tables.dropLast ++ [.table span origin inner]))
      | _ => none
    | some _ => none

/-- Changes the entries of the table that a path of keys leads to, making the
tables on the way.  In a sequence of tables the last one is meant. -/
def changeAt : List KeyPart → (Entries → Option Entries) → Entries → Option Entries
  | [], change, entries => change entries
  | k :: ks, change, entries =>
    match entries.lookup k.text with
    | none => (changeAt ks change []).map fun inner =>
        setEntry entries k.text (.table k.span .implied inner)
    | some (.table span origin inner) =>
      if origin = .braces then none
      else (changeAt ks change inner).map fun inner =>
        setEntry entries k.text (.table span origin inner)
    | some (.tables items) =>
      match items.getLast? with
      | some (.table span origin inner) =>
        (changeAt ks change inner).map fun inner =>
          setEntry entries k.text (.tables (items.dropLast ++ [.table span origin inner]))
      | _ => none
    | some _ => none

/-! ## 2. Values with parts -/

mutual

/-- A value.  `depth` bounds the nesting, and `n` the length of what is read. -/
def value (depth : Nat) : Nat → Reader Value
  | 0, _ => none
  | n + 1, cs =>
    match depth, cs with
    | depth + 1, '[' :: rest =>
      (items depth n (skipLines rest.length rest)).map fun (vs, after) =>
        (.array ⟨cs.length, after.length⟩ vs, after)
    | depth + 1, '\x7b' :: rest =>
      (pairs depth n [] (skipSpace rest)).map fun (entries, after) =>
        (.table ⟨cs.length, after.length⟩ .braces entries, after)
    | _, _ =>
      (scalar cs).map fun (s, after) => (.scalar ⟨cs.length, after.length⟩ s, after)

/-- The values of an array, up to its closing bracket. -/
def items (depth : Nat) : Nat → Reader (List Value)
  | 0, _ => none
  | n + 1, cs =>
    match cs with
    | ']' :: rest => some ([], rest)
    | _ =>
      (value depth n cs).bind fun (v, rest) =>
        match skipLines rest.length rest with
        | ',' :: rest =>
          (items depth n (skipLines rest.length rest)).map fun (vs, rest) => (v :: vs, rest)
        | ']' :: rest => some ([v], rest)
        | _ => none

/-- The assignments of a table between braces, up to the closing brace, after
those in `entries`. -/
def pairs (depth : Nat) : Nat → Entries → Reader Entries
  | 0, _, _ => none
  | n + 1, entries, cs =>
    match cs, entries with
    | '\x7d' :: rest, [] => some ([], rest)
    | _, _ =>
      (key cs).bind fun (k, rest) =>
        match rest with
        | '=' :: rest =>
          (value depth n (skipSpace rest)).bind fun (v, rest) =>
            (assign k v entries).bind fun entries =>
              match skipSpace rest with
              | ',' :: rest => pairs depth n entries (skipSpace rest)
              | '\x7d' :: rest => some (entries, rest)
              | _ => none
        | _ => none

end

/-! ## 3. Files -/

/-- The state of reading a file: the tables so far, and the open table, which
belongs at a path once it is complete. -/
structure Draft where
  /-- The completed tables; nothing before the first header. -/
  root : Entries := []
  /-- The path of the open table. -/
  path : List KeyPart := []
  /-- Whether the open table is one of a sequence. -/
  inSequence : Bool := false
  /-- The open table, from its header to its last assignment so far. -/
  span : Span
  /-- The assignments of the open table. -/
  entries : Entries := []

/-- The open table as a value. -/
def Draft.table (d : Draft) : Value :=
  .table d.span .header d.entries

/-- The tables of a file once the open one is complete. -/
def Draft.finish (d : Draft) : Option Entries :=
  match d.path.getLast? with
  | none => some d.entries
  | some k =>
    changeAt d.path.dropLast (fun entries =>
      if d.inSequence then
        match entries.lookup k.text with
        | some (.tables items) => some (setEntry entries k.text (.tables (items ++ [d.table])))
        | none => some (setEntry entries k.text (.tables [d.table]))
        | some _ => none
      else
        match entries.lookup k.text with
        | none => some (entries ++ [(k.text, d.table)])
        | some (.table _ .implied _) | some (.table _ .dotted _) =>
          some (setEntry entries k.text d.table)
        | some _ => none) d.root

/-- Opens the table of a header.  A table that other headers implied is taken
up again, and stands at the end from then on. -/
def Draft.openTable (d : Draft) (path : List KeyPart) (span : Span) : Option Draft := do
  let root ← d.finish
  let k ← path.getLast?
  let parents := path.dropLast
  let taken ← changeAt parents (fun entries =>
    match entries.lookup k.text with
    | none => some entries
    | some (.table _ .implied _) => some (entries.filter fun x => x.1 != k.text)
    | some _ => none) root
  return { root := taken, path, span, entries := openEntries (parents.map (·.text)) k.text root }
where
  /-- The entries of the table taken up again. -/
  openEntries : List String → String → Entries → Entries
    | [], k, entries =>
      match entries.lookup k with
      | some (.table _ _ inner) => inner
      | _ => []
    | p :: ps, k, entries =>
      match entries.lookup p with
      | some (.table _ _ inner) => openEntries ps k inner
      | some (.tables items) =>
        match items.getLast? with
        | some (.table _ _ inner) => openEntries ps k inner
        | _ => []
      | _ => []

/-- Opens one more table of a sequence. -/
def Draft.openInSequence (d : Draft) (path : List KeyPart) (span : Span) : Option Draft := do
  let root ← d.finish
  let k ← path.getLast?
  let root ← changeAt path.dropLast (fun entries =>
    match entries.lookup k.text with
    | none => some (setEntry entries k.text (.tables []))
    | some (.tables _) => some entries
    | some _ => none) root
  return { root, path, span, inSequence := true }

/-- Reads a header after its first bracket. -/
def header (d : Draft) (start : Nat) (cs : List Char) : Option (Draft × List Char) :=
  match cs with
  | '[' :: cs =>
    (key cs).bind fun (path, rest) =>
      match rest with
      | ']' :: ']' :: rest =>
        (d.openInSequence path ⟨start, rest.length⟩).map fun d => (d, rest)
      | _ => none
  | _ =>
    (key cs).bind fun (path, rest) =>
      match rest with
      | ']' :: rest => (d.openTable path ⟨start, rest.length⟩).map fun d => (d, rest)
      | _ => none

/-- Reads an assignment, which makes the open table reach to the end of its value. -/
def assignment (d : Draft) (cs : List Char) : Option (Draft × List Char) :=
  (key cs).bind fun (k, rest) =>
    match rest with
    | '=' :: after =>
      let cs' := skipSpace after
      (value (nestingLimit - 1) (2 * cs'.length + 2) cs').bind fun (v, after) =>
        (assign k v d.entries).map fun entries =>
          ({ d with entries, span := { d.span with stop := v.span.stop } }, after)
    | _ => none

/-- Reads one line; an empty one changes nothing. -/
def line (d : Draft) (cs : List Char) : Option (Draft × List Char) :=
  match skipSpace cs with
  | [] => some (d, [])
  | '#' :: rest => some (d, '#' :: rest)
  | '[' :: rest => header d (rest.length + 1) rest
  | c :: rest => if (lineEnd? (c :: rest)).isSome then some (d, c :: rest) else assignment d (c :: rest)

/-- Reads lines until nothing is left.  The bound `n` is the number of lines. -/
def lines : Nat → Draft → List Char → Option Draft
  | 0, _, _ => none
  | n + 1, d, cs =>
    (line d cs).bind fun (d, rest) =>
      (endOfLine? rest).bind fun rest => if rest.isEmpty then some d else lines n d rest

/-- The table that a file describes; none if the text is malformed. -/
def parse? (text : String) : Option Value :=
  let cs := match text.toList with
    | c :: cs => if c.toNat = 0xFEFF then cs else c :: cs
    | [] => []
  let whole : Span := ⟨cs.length, 0⟩
  (lines (cs.length + 1) { span := whole } cs).bind fun d =>
    d.finish.map fun entries => .table whole .header entries

end CrossBuild.Toml
