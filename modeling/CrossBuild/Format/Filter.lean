import CrossBuild.Format

/-!
# Format filters

A scenario may be meaningful for some formats only.  Its filter is a list of
entries: `!name` excludes a format, any other entry that is not blank
belongs to a list of included formats, and when that list is empty every
format is included.
-/
namespace CrossBuild

/-- Which formats a scenario applies to. -/
structure FormatFilter where
  /-- The included names; when there are none, every format is included. -/
  included : List String
  /-- The excluded names. -/
  excluded : List String
  deriving DecidableEq, Repr

namespace FormatFilter

/-- The filter without entries. -/
def empty : FormatFilter := ⟨[], []⟩

/-- Adds one entry. -/
def add (filter : FormatFilter) (entry : String) : FormatFilter :=
  match Text.trimChars entry.toList with
  | [] => filter
  | '!' :: name =>
    { filter with excluded := filter.excluded ++ [Text.lowerName (String.ofList name)] }
  | name => { filter with included := filter.included ++ [Text.lowerName (String.ofList name)] }

/-- The filter that a list of entries makes. -/
def ofEntries (entries : List String) : FormatFilter :=
  entries.foldl add empty

/-- Whether a scenario with this filter applies to a format. -/
def admits (filter : FormatFilter) (format : Format) : Bool :=
  !filter.excluded.contains format.name &&
    (filter.included.isEmpty || filter.included.contains format.name)

/-- Whether the filter has no entry that counts. -/
def isEmpty (filter : FormatFilter) : Bool :=
  filter.included.isEmpty && filter.excluded.isEmpty

end FormatFilter

end CrossBuild
