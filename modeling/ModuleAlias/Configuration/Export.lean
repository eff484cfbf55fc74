/-
Module: ModuleAlias.Configuration.Export
Purpose: Brings what a configuration file exports to a plain value. A program may export a module,
  in it the wrapper object of an ES module, in it a function of the environment name, and in that
  or in its result a list of configurations, of which the first counts. The layers are taken off in
  this order, each at most once.
Imports: ModuleAlias.Value
Main exports: Configuration.normalizeExport
-/
import ModuleAlias.Value

namespace ModuleAlias.Configuration

/-- Takes off a module: its default definition, or else its definition named `config`. -/
def openModule : Value → Value
  | .definitions named =>
    match Members.get? named (Text.ofString "default") with
    | some value => value
    | none => (Members.get? named (Text.ofString "config")).getD .null
  | value => value

/-- Takes off the wrapper of an ES module: an object that says it is one and has a default that
counts as true. -/
def openWrapper (value : Value) : Value :=
  match value.member? (Text.ofString "__esModule"), value.member? (Text.ofString "default") with
  | some mark, some inner => if mark.isTruthy && inner.isTruthy then inner else value
  | _, _ => value

/-- Calls a function with the environment name. -/
def callFunction (environment : Option Text) : Value → Value
  | .function result => result environment
  | value => value

/-- The first item of a list that has one. -/
def firstOfList : Value → Value
  | .list (item :: _) => item
  | value => value

/-- The plain value of an export. -/
def normalizeExport (exported : Value) (environment : Option Text) : Value :=
  firstOfList (callFunction environment (openWrapper (openModule exported)))

end ModuleAlias.Configuration
