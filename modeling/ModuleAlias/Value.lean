/-
Module: ModuleAlias.Value
Purpose: The values a configuration is made of: the data of a JSON text, and, where a program
  exports its configuration, functions of the environment name and modules of named definitions.
  The members of an object keep the order in which their names were first written; writing a name
  again replaces its value in place.
Imports: ModuleAlias.Text, ModuleAlias.Decimal.Double
Main exports: Number, Value, Value.member?, Value.isTruthy, Value.kindName, Members.put
-/
import ModuleAlias.Text
import ModuleAlias.Decimal.Double

namespace ModuleAlias

/-- A number as a JSON text writes it. A number with a fraction or an exponent stands for the
nearest double to `digits * 10 ^ exponent`. -/
inductive Number where
  | integer (value : Int)
  | decimal (negative : Bool) (digits : Nat) (exponent : Int)
  | infinite (negative : Bool)
  | undefined
deriving DecidableEq, Repr

namespace Number

/-- Whether a number is zero. A decimal is when the nearest double is. -/
def isZero : Number → Bool
  | .integer value => value == 0
  | .decimal _ digits exponent =>
    match Decimal.nearest? { digits, exponent } with
    | some value => value.mantissa == 0
    | none => false
  | .infinite _ => false
  | .undefined => false

end Number

/-- A configuration value. -/
inductive Value where
  | null
  | boolean (value : Bool)
  | number (value : Number)
  | text (value : Text)
  | list (items : List Value)
  | object (members : List (Text × Value))
  /-- A function of the environment name. -/
  | function (result : Option Text → Value)
  /-- A module, as the definitions that it makes by name. -/
  | definitions (named : List (Text × Value))

/-- Members of an object, in order. -/
abbrev Members := List (Text × Value)

namespace Members

/-- The value that a name stands for. -/
def get? (members : Members) (name : Text) : Option Value :=
  (members.find? fun member => member.1 == name).map (·.2)

/-- Writes a member: in the place of the one of that name, or else at the end. -/
def put (members : Members) (name : Text) (value : Value) : Members :=
  match members with
  | [] => [(name, value)]
  | member :: rest =>
    if member.1 = name then (name, value) :: rest else member :: put rest name value

/-- Writes a list of members in turn. -/
def ofList (written : List (Text × Value)) : Members :=
  written.foldl (fun members member => put members member.1 member.2) []

end Members

namespace Value

/-- The member of an object by name. -/
def member? (value : Value) (name : Text) : Option Value :=
  match value with
  | .object members => Members.get? members name
  | _ => none

/-- Whether a value counts as true in a condition: null, false, zero and what is empty do not. -/
def isTruthy : Value → Bool
  | .null => false
  | .boolean value => value
  | .number value => !value.isZero
  | .text value => !value.isEmpty
  | .list items => !items.isEmpty
  | .object members => !members.isEmpty
  | .function _ => true
  | .definitions _ => true

/-- The word by which a message names the kind of a value. -/
def kindName : Value → String
  | .null => "NoneType"
  | .boolean _ => "bool"
  | .number (.integer _) => "int"
  | .number _ => "float"
  | .text _ => "str"
  | .list _ => "list"
  | .object _ => "dict"
  | .function _ => "function"
  | .definitions _ => "module"

end Value

end ModuleAlias
