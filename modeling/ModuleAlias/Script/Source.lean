/-
Module: ModuleAlias.Script.Source
Purpose: The bytes of a source in UTF-8, and the text that a range of them or a node of the syntax
  tree covers.
Imports: ModuleAlias.Script.Node
Main exports: Script.Source, Script.Source.slice, Script.Source.textOf, Script.Source.lineAt
-/
import ModuleAlias.Script.Node

namespace ModuleAlias.Script

/-- A source as bytes. -/
structure Source where
  bytes : ByteArray

namespace Source

/-- The source of a text. -/
def ofString (text : String) : Source := { bytes := text.toUTF8 }

/-- The text of a range of bytes; nothing where the range cuts a character apart. -/
def slice (source : Source) (start stop : Nat) : String :=
  (String.fromUTF8? (source.bytes.extract start stop)).getD ""

/-- The text that a node covers. -/
def textOf (source : Source) (node : Node) : String := source.slice node.start node.stop

/-- The line of a byte, counted from one; a line feed ends a line. -/
def lineAt (source : Source) (offset : Nat) : Nat :=
  (source.bytes.extract 0 offset).toList.count 10 + 1

end Source

end ModuleAlias.Script
