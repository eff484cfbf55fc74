/-
Module: ModuleAlias.Proofs.FileStore.EditedFiles
Purpose: Edits of the text of a file, carried over to the bytes of the file. Between the edits the
  text is woven from pieces that stand for pieces of the file. Making the edits in the text and
  making them in the file come to the same bytes exactly when no piece that is kept holds a carriage
  return.
Imports: ModuleAlias.Proofs.Replacement.Stitching, ModuleAlias.Proofs.FileStore.Readings
Main exports: Edit.kept, Edit.weave?, Edit.stitched?_eq_weave?, Edit.inFile, Edit.exists_pieces,
  Edit.stitched?_inFile_iff
-/
import ModuleAlias.Proofs.Replacement.Stitching
import ModuleAlias.Proofs.FileStore.Readings

namespace ModuleAlias.Edit

open FileStore

/-!
### Pieces that are kept
-/

/-- The pieces between two offsets that edits keep. -/
def kept (bytes : ByteArray) (low high : Nat) : List Edit → List ByteArray
  | [] => [bytes.extract low high]
  | edit :: edits => bytes.extract low edit.start :: kept bytes edit.stop high edits

/-- Pieces with texts between them. -/
def weave? : List ByteArray → List Text → Option ByteArray
  | piece :: pieces, text :: texts => do
    let inserted ← Text.toUtf8? text
    let rest ← weave? pieces texts
    return piece ++ inserted ++ rest
  | [piece], [] => some piece
  | _, _ => none

/-- Edits weave their texts between the pieces that they keep. -/
theorem stitched?_eq_weave? (bytes : ByteArray) (low high : Nat) (edits : List Edit) :
    stitched? bytes low high edits = weave? (kept bytes low high edits) (edits.map Edit.text) := by
  induction edits generalizing low with
  | nil => rfl
  | cons edit edits ih => simp only [stitched?, kept, List.map_cons, weave?, ih]

theorem weave?_cons {piece woven : ByteArray} {pieces : List ByteArray} {text : Text}
    {texts : List Text} (weaves : weave? (piece :: pieces) (text :: texts) = some woven) :
    ∃ inserted rest, Text.toUtf8? text = some inserted ∧ weave? pieces texts = some rest ∧
      woven = piece ++ (inserted ++ rest) := by
  obtain ⟨inserted, written, weaves⟩ := Option.bind_eq_some_iff.1 weaves
  obtain ⟨rest, after, same⟩ := Option.bind_eq_some_iff.1 weaves
  refine ⟨inserted, rest, written, after, ?_⟩
  rw [← ByteArray.append_assoc]
  exact (Option.some_inj.1 same).symm

/-- Longer pieces weave into more bytes, and into as many only if none of them is longer. -/
theorem weave?_le {α : Type} {shorter longer : α → ByteArray} {pieces : List α}
    {texts : List Text} {first second : ByteArray}
    (le : ∀ piece ∈ pieces, (shorter piece).size ≤ (longer piece).size)
    (weaves : weave? (pieces.map shorter) texts = some first)
    (weaves' : weave? (pieces.map longer) texts = some second) :
    first.size ≤ second.size ∧
      (first = second → ∀ piece ∈ pieces, shorter piece = longer piece) := by
  induction pieces generalizing texts first second with
  | nil => cases texts <;> cases weaves
  | cons piece pieces ih =>
      have here := le piece List.mem_cons_self
      cases texts with
      | nil =>
          cases pieces with
          | nil =>
              cases weaves
              cases weaves'
              refine ⟨here, ?_⟩
              intro same other known
              rw [List.mem_singleton.1 known]
              exact same
          | cons next pieces => cases weaves
      | cons text texts =>
          obtain ⟨inserted, rest, written, after, rfl⟩ := weave?_cons weaves
          obtain ⟨inserted', rest', written', after', rfl⟩ := weave?_cons weaves'
          rw [written, Option.some_inj] at written'
          subst written'
          obtain ⟨restLe, restEq⟩ :=
            ih (fun piece known => le piece (List.mem_cons_of_mem _ known)) after after'
          constructor
          · simp only [ByteArray.size_append]
            omega
          · intro joined
            -- As the whole has one size, so has each part.
            have sizes := congrArg ByteArray.size joined
            simp only [ByteArray.size_append] at sizes
            have front : shorter piece = longer piece :=
              ByteArray.append_inj_left joined (by omega)
            rw [front, ByteArray.append_right_inj, ByteArray.append_right_inj] at joined
            intro other known
            rcases List.mem_cons.1 known with same | later
            · exact same ▸ front
            · exact restEq joined other later

/-!
### From the text to the file
-/

/-- An edit of a text, as an edit of the file that the text is read from. -/
def inFile (readings : List Reading) (edit : Edit) : Edit where
  start := fileOffset readings edit.start
  stop := fileOffset readings edit.stop
  text := edit.text

/-- The bytes of a text that come from the readings between some others. -/
theorem extract_textBytes (before middle after : List Reading) :
    (textBytes (before ++ middle ++ after)).extract (textBytes before).size
      (textBytes (before ++ middle)).size = textBytes middle := by
  rw [textBytes_append, textBytes_append]
  exact extract_middle _ _ _

/-- The bytes of a file that the readings between some others come from. -/
theorem extract_fileBytes (before middle after : List Reading) :
    (fileBytes (before ++ middle ++ after)).extract (fileBytes before).size
      (fileBytes (before ++ middle)).size = fileBytes middle := by
  rw [fileBytes_append, fileBytes_append]
  exact extract_middle _ _ _

/-- The pieces of the text that edits keep are read from the pieces of the file that they keep. -/
theorem exists_pieces {readings before after : List Reading} {edits : List Edit}
    (parted : readings = before ++ after)
    (fit : FitText (String.ofList (readings.map Reading.char)) (textBytes before).size
      (textBytes readings).size edits) :
    ∃ pieces : List (List Reading),
      kept (textBytes readings) (textBytes before).size (textBytes readings).size edits =
        pieces.map textBytes ∧
      kept (fileBytes readings) (fileBytes before).size (fileBytes readings).size
        (edits.map (inFile readings)) = pieces.map fileBytes := by
  induction edits generalizing before after with
  | nil =>
      have text := extract_textBytes before after []
      have file := extract_fileBytes before after []
      rw [List.append_nil, ← parted] at text file
      refine ⟨[after], ?_, ?_⟩
      · rw [kept, text, List.map_singleton]
      · rw [List.map_nil, kept, file, List.map_singleton]
  | cons edit edits ih =>
      obtain ⟨⟨ahead, upward, rest⟩, whole⟩ := fit
      have here := whole edit List.mem_cons_self
      -- The edit begins behind some more readings, and ends behind some more.
      rw [parted] at here
      obtain ⟨middle, behind, parted', starts⟩ :=
        exists_append_of_between_of_le here.starts ahead
      subst parted'
      rw [← List.append_assoc] at here
      obtain ⟨taken, left, parted', stops⟩ :=
        exists_append_of_between_of_le here.stops (starts ▸ upward)
      subst parted'
      rw [← List.append_assoc, ← List.append_assoc] at parted
      have fit' : FitText (String.ofList (readings.map Reading.char))
          (textBytes (before ++ middle ++ taken)).size (textBytes readings).size edits := by
        rw [← stops]
        exact ⟨rest, fun edit known => whole edit (List.mem_cons_of_mem _ known)⟩
      obtain ⟨pieces, ofText, ofFile⟩ := ih parted fit'
      have fileStarts : fileOffset readings edit.start = (fileBytes (before ++ middle)).size := by
        rw [starts, parted, List.append_assoc (before ++ middle)]
        exact fileOffset_append _ _
      have fileStops : fileOffset readings edit.stop =
          (fileBytes (before ++ middle ++ taken)).size := by
        rw [stops, parted]
        exact fileOffset_append _ _
      have text := extract_textBytes before middle (taken ++ left)
      have file := extract_fileBytes before middle (taken ++ left)
      rw [← List.append_assoc, ← parted] at text file
      refine ⟨middle :: pieces, ?_, ?_⟩
      · rw [kept, starts, stops, text, ofText, List.map_cons]
      · rw [List.map_cons, kept, inFile, fileStarts, fileStops, file, ofFile, List.map_cons]

/-- Edits made in a text leave the bytes that they would leave in its file exactly when every piece
of the file that they keep is free of carriage returns. -/
theorem stitched?_inFile_iff {readings : List Reading} {edits : List Edit} {written : ByteArray}
    (fit : FitText (String.ofList (readings.map Reading.char)) 0 (textBytes readings).size edits)
    (stitched : stitched? (textBytes readings) 0 (textBytes readings).size edits = some written) :
    stitched? (fileBytes readings) 0 (fileBytes readings).size (edits.map (inFile readings)) =
        some written ↔
      ∀ piece ∈ kept (fileBytes readings) 0 (fileBytes readings).size
        (edits.map (inFile readings)), carriageReturn ∉ piece.data := by
  obtain ⟨pieces, ofText, ofFile⟩ := exists_pieces (List.nil_append readings).symm fit
  have texts : (edits.map (inFile readings)).map Edit.text = edits.map Edit.text := by
    simp [Function.comp_def, inFile]
  have ofText' : kept (textBytes readings) 0 (textBytes readings).size edits =
      pieces.map textBytes := ofText
  have ofFile' : kept (fileBytes readings) 0 (fileBytes readings).size
      (edits.map (inFile readings)) = pieces.map fileBytes := ofFile
  rw [stitched?_eq_weave?, ofText'] at stitched
  rw [stitched?_eq_weave?, ofFile', texts]
  have free : (∀ piece ∈ pieces.map fileBytes, carriageReturn ∉ piece.data) ↔
      ∀ piece ∈ pieces, textBytes piece = fileBytes piece := by
    simp only [List.mem_map, forall_exists_index, and_imp, forall_apply_eq_imp_iff₂,
      textBytes_eq_fileBytes_iff]
  rw [free]
  constructor
  · intro woven
    exact (weave?_le (fun piece _ => size_textBytes_le piece) stitched woven).2 rfl
  · intro same
    rw [← List.map_congr_left same]
    exact stitched

end ModuleAlias.Edit
