/-
Module: ModuleAlias.Replacement.Splice
Purpose: Applies edits to bytes. Edits are applied from the back to the front, so that the offsets
  of those still to come stay valid; of edits that start at the same byte, the ones listed first
  come first. An edit that reaches into one applied before it is left out.
Imports: ModuleAlias.Text
Main exports: Edit, Edit.parting, Edit.applyAll, Text.toUtf8?
-/
import ModuleAlias.Text

namespace ModuleAlias

/-- A text in UTF-8; there is none for a text with half of a surrogate pair. -/
def Text.toUtf8? (text : Text) : Option ByteArray := (Text.toString? text).map String.toUTF8

/-- A range of bytes and the text to put in its place. -/
structure Edit where
  start : Nat
  stop : Nat
  text : Text
deriving DecidableEq, Repr

namespace Edit

/-- Bytes with a range replaced. What lies beyond their end is empty. -/
def splice (bytes : ByteArray) (start stop : Nat) (inserted : ByteArray) : ByteArray :=
  bytes.extract 0 start ++ inserted ++ bytes.extract stop bytes.size

/-- Edits that are made and edits that are left out, both in the order in which they are looked
at. -/
structure Parting where
  made : List Edit
  leftOut : List Edit

/-- Parts edits. An edit that ends after `limit`, where the last one that is made starts, is left
out. -/
def part (limit : Nat) : List Edit → Parting
  | [] => { made := [], leftOut := [] }
  | edit :: edits =>
    if limit < edit.stop then
      let rest := part limit edits
      { rest with leftOut := edit :: rest.leftOut }
    else
      let rest := part edit.start edits
      { rest with made := edit :: rest.made }

/-- Makes edits in the given order. A text that cannot be written in UTF-8 is a failure. -/
def makeAll (bytes : ByteArray) : List Edit → Option ByteArray
  | [] => some bytes
  | edit :: edits =>
    match Text.toUtf8? edit.text with
    | none => none
    | some inserted => makeAll (splice bytes edit.start edit.stop inserted) edits

/-- Edits with later starts first. -/
def backToFront (edits : List Edit) : List Edit :=
  edits.mergeSort fun first second => second.start ≤ first.start

/-- Which of the edits of bytes are made. -/
def parting (bytes : ByteArray) (edits : List Edit) : Parting :=
  part (bytes.size + 1) (backToFront edits)

/-- Applies edits to bytes; nothing when a text cannot be written in UTF-8. -/
def applyAll (bytes : ByteArray) (edits : List Edit) : Option ByteArray :=
  makeAll bytes (parting bytes edits).made

end Edit

end ModuleAlias
