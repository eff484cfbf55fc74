/-
Module: ModuleAlias.Configuration
Purpose: A build configuration as the rest of the library uses it: the alias table, the external
  modules, and the file they come from. It is read from the plain object that a configuration file
  exports; parts that are left out, or that count as false, are empty.
Imports: ModuleAlias.Alias.Table, ModuleAlias.External, ModuleAlias.Fault
Main exports: Configuration, Configuration.hasAliases, Configuration.ofValue
-/
import ModuleAlias.Alias.Table
import ModuleAlias.External
import ModuleAlias.Fault

namespace ModuleAlias

/-- A build configuration. -/
structure Configuration where
  aliases : Alias.Table
  externals : External.Table
  path : Option Text
deriving DecidableEq, Repr

namespace Configuration

/-- Whether the configuration has an alias at all. -/
def hasAliases (configuration : Configuration) : Bool := !configuration.aliases.entries.isEmpty

/-- The members that the alias table is read from. What counts as false has none; anything else
has to be an object. -/
def aliasMembers (exported : Value) : Except Fault Members :=
  match exported.member? (Text.ofString "resolve") with
  | some (.object resolve) =>
    match Members.get? resolve (Text.ofString "alias") with
    | some (.object members) => .ok members
    | some value => if value.isTruthy then .error .shape else .ok []
    | none => .ok []
  | _ => .ok []

/-- The members that the external modules are read from; only an object has any. -/
def externalMembers (exported : Value) : Members :=
  match exported.member? (Text.ofString "externals") with
  | some (.object members) => members
  | _ => []

/-- Reads a configuration from an exported object. -/
def ofValue (exported : Value) (path : Option Text) : Except Fault Configuration :=
  match exported with
  | .object _ => do
    let members ← aliasMembers exported
    return {
      aliases := Alias.Table.ofMembers members
      externals := External.Table.ofMembers (externalMembers exported)
      path }
  | _ => .error .shape

end Configuration

end ModuleAlias
