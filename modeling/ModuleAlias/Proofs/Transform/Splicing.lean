/-
Module: ModuleAlias.Proofs.Transform.Splicing
Purpose: A transform replaces the ranges that it reports and keeps every other byte. The reported
  ranges follow one another, none is left out for overlapping, and the result is a text again.
Imports: ModuleAlias.Script.Tree, ModuleAlias.Proofs.Replacement.Ranges
Main exports: Transform.codeOf_of_stitched?, Transform.stitched?_of_codeOf,
  Transform.codeOf_ne_notUtf8, Transform.runTree_replaces_reported_ranges
-/
import ModuleAlias.Script.Tree
import ModuleAlias.Proofs.Replacement.Ranges

namespace ModuleAlias.Transform

open Script Replacement

/-!
### Edits of whole characters
-/

section
variable {text : String} {replacements : List Replacement}

/-- Edits that fit a text come to what they come to from the front to the back. They can only fail
for a text that has no bytes. -/
theorem applyEdits_eq_stitched?
    (fit : Edit.FitText text 0 text.utf8ByteSize (replacements.map editOf)) :
    applyEdits (Source.ofString text).bytes (replacements.map editOf) =
      match Edit.stitched? text.toUTF8 0 text.utf8ByteSize (replacements.map editOf) with
      | some bytes => .ok bytes
      | none => .error .notEncodable := by
  have made : Edit.applyAll text.toUTF8 (replacements.map editOf) =
      Edit.stitched? text.toUTF8 0 text.utf8ByteSize (replacements.map editOf) :=
    Edit.applyAll_eq_stitched? fit.ordered fit.nonempty
  rw [← made]
  rfl

/-- Replacing whole characters by texts gives a text. -/
theorem codeOf_of_stitched? {bytes : ByteArray}
    (fit : Edit.FitText text 0 text.utf8ByteSize (replacements.map editOf))
    (stitched : Edit.stitched? text.toUTF8 0 text.utf8ByteSize (replacements.map editOf) =
      some bytes) :
    ∃ code, codeOf (Source.ofString text) replacements = .ok code ∧ code.toUTF8 = bytes := by
  have valid : bytes.IsValidUTF8 :=
    Edit.isValidUTF8_of_stitched? fit String.Pos.Raw.isValid_zero
      String.Pos.Raw.isValid_rawEndPos stitched
  obtain ⟨code, decoded⟩ := Option.isSome_iff_exists.1 (Text.isSome_fromUTF8? valid)
  refine ⟨code, ?_, Text.toUTF8_of_fromUTF8? decoded⟩
  simp only [codeOf, applyEdits_eq_stitched? fit, stitched, bind, Except.bind, decoded]
  rfl

theorem codeOf_of_not_stitched?
    (fit : Edit.FitText text 0 text.utf8ByteSize (replacements.map editOf))
    (unwritable : Edit.stitched? text.toUTF8 0 text.utf8ByteSize (replacements.map editOf) =
      none) :
    codeOf (Source.ofString text) replacements = .error .notEncodable := by
  simp only [codeOf, applyEdits_eq_stitched? fit, unwritable, bind, Except.bind]

/-- The replaced text is the text with the edits made from the front to the back. -/
theorem stitched?_of_codeOf {code : String}
    (fit : Edit.FitText text 0 text.utf8ByteSize (replacements.map editOf))
    (done : codeOf (Source.ofString text) replacements = .ok code) :
    Edit.stitched? text.toUTF8 0 text.utf8ByteSize (replacements.map editOf) =
      some code.toUTF8 := by
  cases stitched : Edit.stitched? text.toUTF8 0 text.utf8ByteSize (replacements.map editOf) with
  | none =>
      rw [codeOf_of_not_stitched? fit stitched] at done
      cases done
  | some bytes =>
      obtain ⟨code', coded, same⟩ := codeOf_of_stitched? fit stitched
      rw [Except.ok.inj (done.symm.trans coded), same]

/-- No character is cut apart. -/
theorem codeOf_ne_notUtf8
    (fit : Edit.FitText text 0 text.utf8ByteSize (replacements.map editOf)) :
    codeOf (Source.ofString text) replacements ≠ .error .notUtf8 := by
  cases stitched : Edit.stitched? text.toUTF8 0 text.utf8ByteSize (replacements.map editOf) with
  | none =>
      rw [codeOf_of_not_stitched? fit stitched]
      intro same
      cases same
  | some bytes =>
      obtain ⟨code, coded, _⟩ := codeOf_of_stitched? fit stitched
      rw [coded]
      intro same
      cases same

end

section
variable {σ : Type} {text : String} {task : Task} {configurations : ConfigurationSource σ}
  {filename : Text} {tree : Tree text} {state : σ}

/-- The edits of a transform follow one another and take out whole characters of the text. -/
theorem fitText_runTree :
    Edit.FitText text 0 text.utf8ByteSize ((replacementsOf
      (runTree task configurations filename text tree state).visited).map editOf) :=
  fitText_walk tree state

/-- The result of a transform reports what the walk replaced, with all of that made. -/
theorem result_of_runTree {result : Result} (whole : task.source = Source.ofString text)
    (done : (runTree task configurations filename text tree state).result = .ok result) :
    result.replacements =
        replacementsOf (runTree task configurations filename text tree state).visited ∧
      Edit.stitched? text.toUTF8 0 text.utf8ByteSize (result.replacements.map editOf) =
        some result.code.toUTF8 := by
  have fit := @fitText_walk σ task configurations text tree state
  unfold runTree at done ⊢
  dsimp only at done ⊢
  split at done
  · cases done
  · split at done
    · rename_i none
      cases done
      refine ⟨rfl, ?_⟩
      rw [List.isEmpty_iff.1 none]
      have all : text.toUTF8.extract 0 text.utf8ByteSize = text.toUTF8 :=
        ByteArray.extract_zero_size
      simp only [List.map_nil, Edit.stitched?, all]
    · obtain ⟨code, coded, same⟩ := exists_of_bind_eq_ok done
      cases same
      rw [whole] at coded
      exact ⟨rfl, stitched?_of_codeOf fit coded⟩

end

/-- The result of a transform of a text that is given reports edits that fit the text, with all of
them made. -/
theorem result_of_runSource {transform : Transform} {around : Surroundings} {text : String}
    {filename : Text} {provider : Provider} {result : Result}
    (done : (transform.runSource around text filename provider).result = .ok result) :
    Edit.FitText text 0 text.utf8ByteSize (result.replacements.map editOf) ∧
      Edit.stitched? text.toUTF8 0 text.utf8ByteSize (result.replacements.map editOf) =
        some result.code.toUTF8 := by
  obtain ⟨same, stitched⟩ := result_of_runTree rfl done
  refine ⟨?_, stitched⟩
  rw [same]
  exact fitText_runTree

section
variable {σ : Type} (text : String) (importer : Alias.Importer) (dependencies : Dependencies)
  (globalObject : Text) (configurations : ConfigurationSource σ) (filename : Text)
  (tree : Tree text) (state : σ)

/-- Whatever the configurations are, a transform of a text reports replacements that follow one
another without overlapping and makes all of them, never fails for a character that is cut apart,
and comes to the text with exactly the reported ranges replaced. -/
theorem runTree_replaces_reported_ranges :
    let task : Task :=
      { source := Source.ofString text, importer, dependencies, globalObject }
    let run := runTree task configurations filename text tree state
    codeOf task.source (replacementsOf run.visited) ≠ .error .notUtf8 ∧
      ∀ result, run.result = .ok result →
        result.replacements = replacementsOf run.visited ∧
        (result.replacements.Pairwise fun first second =>
          first.start < second.start ∧ first.stop ≤ second.start) ∧
        (∀ replacement ∈ result.replacements,
          replacement.start < replacement.stop ∧ replacement.stop ≤ text.utf8ByteSize) ∧
        (Edit.parting text.toUTF8 (result.replacements.map editOf)).leftOut = [] ∧
        Edit.stitched? text.toUTF8 0 text.utf8ByteSize (result.replacements.map editOf) =
          some result.code.toUTF8 := by
  intro task run
  have fit : Edit.FitText text 0 text.utf8ByteSize ((replacementsOf run.visited).map editOf) :=
    fitText_runTree
  refine ⟨codeOf_ne_notUtf8 fit, ?_⟩
  intro result done
  obtain ⟨same, stitched⟩ := result_of_runTree rfl done
  rw [same] at stitched ⊢
  refine ⟨rfl, ?_, ?_, ?_, stitched⟩
  · have starts := List.pairwise_map.1 (fit.ordered.pairwise_start_lt fit.nonempty)
    have stops := List.pairwise_map.1 fit.ordered.pairwise
    exact starts.and stops
  · intro replacement known
    have known' : editOf replacement ∈ (replacementsOf run.visited).map editOf :=
      List.mem_map_of_mem known
    have inside := fit.ordered.bounds_of_mem known'
    exact ⟨(fit.whole _ known').nonempty, inside.2.2⟩
  · rw [@Edit.parting_of_inOrder text.toUTF8 _ fit.ordered fit.nonempty]

end

/-- An import behind a comment with a character of two bytes. -/
def accentedText : String := "/* é */ import a from 'lib/a';"

/-- The configuration that the importing file finds: one alias, for a directory beside it. -/
def libraryAtHand : ConfigurationSource Unit := fun _ =>
  (.ok { aliases := Alias.Table.ofMembers [("lib", .text "/p/lib")], externals := [],
         path := none }, ())

/-- The run over the accented text, as the file `/p/a.js`. -/
def accentedRun : Run Unit :=
  runTree
    { source := Source.ofString accentedText,
      importer := Alias.Importer.ofFile "/p" "/p/a.js" none,
      dependencies := Dependencies.none, globalObject := External.defaultGlobal }
    libraryAtHand "/p/a.js" accentedText (Tree.ofSource .javascript accentedText) ()

theorem accentedRun_replaces_reported_ranges :
    ∃ result, accentedRun.result = .ok result ∧
      result.code = "/* é */ import a from './lib/a';" ∧
      Edit.stitched? accentedText.toUTF8 0 accentedText.utf8ByteSize
        (result.replacements.map editOf) = some result.code.toUTF8 := by
  have code : accentedRun.result.toOption.map Result.code =
      some "/* é */ import a from './lib/a';" := by decide +kernel
  obtain ⟨result, found, same⟩ := Option.map_eq_some_iff.1 code
  have done : accentedRun.result = .ok result := by
    cases outcome : accentedRun.result with
    | error fault => simp [outcome, Except.toOption] at found
    | ok other => simpa [outcome, Except.toOption] using found
  obtain ⟨_, _, _, _, stitched⟩ :=
    (runTree_replaces_reported_ranges accentedText (Alias.Importer.ofFile "/p" "/p/a.js" none)
      Dependencies.none External.defaultGlobal libraryAtHand "/p/a.js"
      (Tree.ofSource .javascript accentedText) ()).2 result done
  exact ⟨result, done, same, stitched⟩

end ModuleAlias.Transform
