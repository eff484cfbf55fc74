/-
Module: ModuleAlias.Alias.Table
Purpose: The alias table of a configuration. An entry maps the specifiers that are its name, or that
  lie below its name as a path, to a target; an exact entry only its name. A table is searched in
  the order in which the configuration lists its entries, and the first entry that matches decides.
Imports: ModuleAlias.Value
Main exports: Alias.Entry, Alias.Entry.matches, Alias.Entry.remainder, Alias.Table,
  Alias.Table.find, Alias.Table.ofMembers, Alias.Table.rejected
-/
import ModuleAlias.Value

namespace ModuleAlias.Alias

/-- The mark at the end of a key that makes its entry exact. -/
def exactMark : CodePoint := .scalar '$'

/-- One line of an alias table: a name, what stands for it, and whether only the name itself is
meant and not the paths below it. -/
structure Entry where
  name : Text
  target : Text
  exact : Bool
deriving DecidableEq, Repr

namespace Entry

/-- Reads an entry from a key and its target. A mark at the end of a key makes the entry exact,
unless the mark is all there is. -/
def ofKey (key target : Text) : Entry :=
  if key.getLast? = some exactMark ∧ 1 < key.length then
    { name := key.dropLast, target, exact := true }
  else
    { name := key, target, exact := false }

/-- The key that an entry is read from. -/
def key (entry : Entry) : Text := if entry.exact then entry.name ++ [exactMark] else entry.name

/-- What follows the name in a specifier. -/
def remainder (entry : Entry) (specifier : Text) : Text := specifier.drop entry.name.length

/-- Whether a specifier is the name of an entry or, unless the entry is exact, a path below it. -/
def «matches» (entry : Entry) (specifier : Text) : Bool :=
  entry.name.isPrefixOf specifier &&
    match entry.remainder specifier with
    | [] => true
    | next :: _ => !entry.exact && next == .scalar '/'

end Entry

/-- An alias table: its entries in the order of the configuration. -/
structure Table where
  entries : List Entry
deriving DecidableEq, Repr

namespace Table

/-- The first entry that matches a specifier. -/
def find (table : Table) (specifier : Text) : Option Entry :=
  table.entries.find? (·.matches specifier)

/-- The text that a configured target stands for: of a list its first item counts. A target that is
no text, or an empty one, stands for nothing. -/
def target? : Value → Option Text
  | .text [] => none
  | .text target => some target
  | .list (.text (c :: cs) :: _) => some (c :: cs)
  | _ => none

/-- The table of the members of a configured object. Members whose target stands for nothing are
left out. -/
def ofMembers (members : Members) : Table where
  entries := members.filterMap fun (key, value) => (target? value).map (Entry.ofKey key)

/-- What a report shows of a target: of a list its first item, and null of an empty list. -/
def shownTarget : Value → Value
  | .list [] => .null
  | .list (item :: _) => item
  | value => value

/-- The members that are left out of a table, with what a report shows of their targets. -/
def rejected (members : Members) : List (Text × Value) :=
  members.filterMap fun (key, value) =>
    if (target? value).isNone then some (key, shownTarget value) else none

end Table

end ModuleAlias.Alias
