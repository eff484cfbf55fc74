/-
Module: ModuleAlias.External
Purpose: Modules that the page supplies at run time. Importing such a module becomes a look-up in a
  namespace of a global object, bound to the names that the import would have bound.
Imports: ModuleAlias.Value, ModuleAlias.Literal.Quoted
Main exports: External.Target, External.Target.ofValue?, External.Target.lookupKey,
  External.Binding, External.Binding.expression, External.Binding.declaration, External.Table,
  External.Table.lookup
-/
import ModuleAlias.Value
import ModuleAlias.Literal.Quoted

namespace ModuleAlias.External

/-- The global object that holds the namespaces unless another is named. -/
def defaultGlobal : Text := Text.ofString "window"

/-- Where a module is found: a namespace of the global object, and the property there. Without a
property of its own the module is found under the specifier that imports it. -/
structure Target where
  space : Text
  key : Option Text
deriving DecidableEq, Repr

namespace Target

/-- The texts of a list of values that are all texts. -/
def texts? : List Value → Option (List Text)
  | [] => some []
  | .text text :: values => (texts? values).map (text :: ·)
  | _ :: _ => none

/-- Reads a target: a nonempty text names the namespace; a nonempty list of texts names the
namespace first and the property last. -/
def ofValue? : Value → Option Target
  | .text [] => none
  | .text space => some { space, key := none }
  | .list values =>
    match texts? values with
    | some [space] => some { space, key := none }
    | some (space :: rest) => some { space, key := rest.getLast? }
    | _ => none
  | _ => none

/-- The property under which an import of a specifier finds the module. -/
def lookupKey (target : Target) (specifier : Text) : Text := target.key.getD specifier

end Target

/-- What takes the place of an import: the look-up of a property in a namespace, the local names
that it binds, and the patterns that bind them. -/
structure Binding where
  space : Text
  key : Text
  names : List Text := []
  patterns : List Text := []
deriving DecidableEq, Repr

namespace Binding

/-- A look-up of a text as a property. -/
def property (name : Text) : Text :=
  Text.ofChars ('[' :: Literal.asciiQuoted name ++ [']'])

/-- The look-up as an expression. -/
def expression (binding : Binding) (globalObject : Text) : Text :=
  globalObject ++ property binding.space ++ property binding.key

/-- The look-up as a statement that binds every pattern to it. -/
def declaration (binding : Binding) (globalObject : Text)
    (keyword : Text := Text.ofString "var") : Text :=
  let expression := binding.expression globalObject
  match binding.patterns with
  | [] => expression ++ Text.ofChars [';']
  | patterns =>
    let declarators := patterns.map fun pattern => pattern ++ Text.ofString " = " ++ expression
    keyword ++ Text.ofChars [' '] ++ (declarators.intersperse (Text.ofString ", ")).flatten ++
      Text.ofChars [';']

end Binding

/-- The external modules of a configuration by name. -/
abbrev Table := List (Text × Target)

namespace Table

/-- The target declared for a name. -/
def get? (table : Table) (name : Text) : Option Target :=
  (table.find? fun declared => declared.1 == name).map (·.2)

/-- Declares a target for a name: in the place of the one of that name, or else at the end. -/
def put (table : Table) (name : Text) (target : Target) : Table :=
  match table with
  | [] => [(name, target)]
  | declared :: rest =>
    if declared.1 = name then (name, target) :: rest else declared :: put rest name target

/-- The table of the declarations of a list; those whose value is no target change nothing. -/
def ofMembers (members : List (Text × Value)) : Table :=
  members.foldl (fun table (name, value) =>
    match Target.ofValue? value with
    | some target => put table name target
    | none => table) []

/-- The target of the first name of a list that is declared. -/
def lookup (table : Table) (names : List (Option Text)) : Option Target :=
  names.findSome? fun name => name.bind table.get?

end Table

/-- The binding that takes the place of an import of a specifier. -/
def bind (target : Target) (specifier : Text) (names patterns : List Text) : Binding where
  space := target.space
  key := target.lookupKey specifier
  names
  patterns

end ModuleAlias.External
