/-
Module: ModuleAlias.Proofs.Transform.LineBreaks
Purpose: Line breaks in replaced literals. A string literal must not hold a line feed or a carriage
  return as it is, but writing a text between quotes puts backslashes before backslashes and quotes
  alone. So a replaced literal stays on one line exactly if what it is resolved to does: the target
  of a package or the steps to a path, and what follows the alias in the specifier.
Imports: ModuleAlias.Proofs.Alias.Importers, ModuleAlias.Proofs.Transform.Returning
Main exports: Text.OnOneLine, Literal.onOneLine_quoted, Alias.Entry.parts,
  Alias.onOneLine_matchWith_iff, Transform.replaced_literal_on_one_line_iff
-/
import ModuleAlias.Proofs.Alias.Importers
import ModuleAlias.Proofs.Transform.Returning

namespace ModuleAlias

open Script

/-!
### Texts on one line
-/

namespace Text

/-- A text stays on one line: it holds no line feed and no carriage return. The other two characters
that end a line may stand in a string literal. -/
def OnOneLine (text : Text) : Prop := CodePoint.scalar '\n' ∉ text ∧ CodePoint.scalar '\r' ∉ text

instance : DecidablePred OnOneLine := fun text =>
  inferInstanceAs (Decidable (CodePoint.scalar '\n' ∉ text ∧ CodePoint.scalar '\r' ∉ text))

@[simp] theorem onOneLine_append {front back : Text} :
    OnOneLine (front ++ back) ↔ OnOneLine front ∧ OnOneLine back := by
  simp only [OnOneLine, List.mem_append, not_or]
  exact and_and_and_comm

/-- Texts joined by a separator that breaks no line stay on one line if each of them does. -/
theorem onOneLine_join {separator : CodePoint} (between : OnOneLine [separator])
    (pieces : List Text) :
    OnOneLine (join separator pieces) ↔ ∀ piece ∈ pieces, OnOneLine piece := by
  induction pieces with
  | nil => simp [join, OnOneLine]
  | cons piece pieces ih =>
      cases pieces with
      | nil => simp [join]
      | cons next more =>
          have parted : join separator (piece :: next :: more) =
              piece ++ ([separator] ++ join separator (next :: more)) :=
            join_cons_of_ne_nil piece (List.cons_ne_nil next more)
          rw [parted, onOneLine_append, onOneLine_append, ih, List.forall_mem_cons]
          simp [between]

end Text

namespace Literal

/-- Writing a text between quotes adds no line break to the two and takes none away. -/
theorem onOneLine_quoted (quote value : Text) :
    Text.OnOneLine (quoted quote value) ↔ quote.OnOneLine ∧ value.OnOneLine := by
  have within (mark text : Text) :
      Text.OnOneLine (escapeEvery mark 0 text) ↔ text.OnOneLine := by
    rw [Text.OnOneLine, mem_escapeEvery_iff (by decide), mem_escapeEvery_iff (by decide)]
    rfl
  rw [quoted, Text.onOneLine_append, Text.onOneLine_append, within, within]
  exact and_iff_left_of_imp And.left

end Literal

/-!
### What a specifier is resolved to
-/

namespace Alias

open Literal (backslash)

theorem onOneLine_slashed (path : Text) : Text.OnOneLine (slashed path) ↔ path.OnOneLine := by
  have kept {sought : CodePoint} (notSlash : sought ≠ Path.slash)
      (notBackslash : sought ≠ backslash) : sought ∈ slashed path ↔ sought ∈ path := by
    constructor
    · intro known
      obtain ⟨c, member, same⟩ := List.mem_map.1 known
      split at same
      · exact absurd same.symm notSlash
      · exact same ▸ member
    · intro known
      exact List.mem_map.2 ⟨sought, known, if_neg notBackslash⟩
  rw [Text.OnOneLine, kept (by decide) (by decide), kept (by decide) (by decide)]
  rfl

theorem onOneLine_markRelative (path : Text) :
    Text.OnOneLine (markRelative path) ↔ path.OnOneLine := by
  have mark : Text.OnOneLine [Path.dot, Path.slash] := by decide
  cases path with
  | nil => exact iff_of_true mark (by decide)
  | cons first rest =>
      rw [markRelative]
      split
      · rfl
      · have marked := @Text.onOneLine_append [Path.dot, Path.slash] (first :: rest)
        simpa [mark] using marked

theorem onOneLine_spelled (steps : List Text) :
    Text.OnOneLine (Path.spelled steps) ↔ ∀ step ∈ steps, step.OnOneLine := by
  cases steps with
  | nil => exact iff_of_true (by decide) (List.forall_mem_nil _)
  | cons step more => exact Text.onOneLine_join (by decide) (step :: more)

/-- What is written in the place of an entry's name, in parts: the target of a package, and the
steps from the directory of the importing file to any other target. -/
def Entry.parts (dependencies : Dependencies) (importer : Importer) (entry : Entry) : List Text :=
  match classify dependencies entry.target with
  | .package => [entry.target]
  | _ => Path.steps (Path.names importer.base) (Path.names (located importer.working entry.target))

/-- A specifier is resolved to one line exactly if that holds of all that is put together: the parts
that stand for the alias, and what follows it. -/
theorem onOneLine_matchWith_iff {importer : Importer}
    (absoluteBase : Path.isAbsolute importer.base = true)
    (absoluteWorking : Path.isAbsolute importer.working = true) (dependencies : Dependencies)
    (entry : Entry) (specifier : Text) :
    (matchWith dependencies entry specifier importer).specifier.OnOneLine ↔
      (∀ part ∈ entry.parts dependencies importer, part.OnOneLine) ∧
        (entry.remainder specifier).OnOneLine := by
  have path : Text.OnOneLine
        (markRelative (relativeTarget entry.target importer ++ entry.remainder specifier)) ↔
      (∀ step ∈ Path.steps (Path.names importer.base)
          (Path.names (located importer.working entry.target)), step.OnOneLine) ∧
        (entry.remainder specifier).OnOneLine := by
    rw [onOneLine_markRelative, Text.onOneLine_append,
      relativeTarget_eq absoluteBase absoluteWorking, onOneLine_slashed, onOneLine_spelled]
  unfold matchWith Entry.parts
  cases classify dependencies entry.target with
  | package => simp
  | absolute => exact path
  | relative => exact path

end Alias

/-!
### Runs
-/

namespace Transform

open Replacement

section
variable {σ : Type} {process : Text} (inRoot : Path.isAbsolute process = true) (text : String)
  (filename : Text) (working : Option Text) (dependencies : Dependencies) (globalObject : Text)
  {configurations : ConfigurationSource σ} (tree : Tree text) {state : σ}
  {configuration : Configuration}

include inRoot

/-- Under one configuration, a literal that is replaced by a resolved specifier stays on one line
exactly if all that it is put together from does: the quote that the literal begins with, the target
of a package or the steps from the importing file to the target, and what follows the alias in the
value of the literal. A line break in one of these is written as it is, even if it was escaped. -/
theorem replaced_literal_on_one_line_iff
    (answers : AlwaysAnswers configurations state configuration) :
    let importer := Alias.Importer.ofFile process filename working
    let task : Task := { source := Source.ofString text, importer, dependencies, globalObject }
    let run := runTree task configurations filename text tree state
    ∀ replacement ∈ replacementsOf run.visited, replacement.kind = .specifier →
      ∃ node literal entry, moduleLiteral? task.source node = some literal ∧
        task.source.textOf literal = replacement.replaced ∧
        literalValue task.source literal = .ok replacement.specifier ∧
        configuration.aliases.find replacement.specifier = some entry ∧
        (replacement.text.OnOneLine ↔
          (literalQuote task.source literal).OnOneLine ∧
            (∀ part ∈ entry.parts dependencies importer, part.OnOneLine) ∧
            (entry.remainder replacement.specifier).OnOneLine) := by
  intro importer task run replacement known isSpecifier
  have keeps : ∀ left : σ, (∃ count, left = askedTimes configurations state count) →
      ∃ count, (configurations left).2 = askedTimes configurations state count := by
    rintro _ ⟨count, rfl⟩
    exact ⟨count + 1, rfl⟩
  obtain ⟨_, _, around, node, literal, specifier, outcome, ⟨count, rfl⟩, answered, named, value,
    decides, replaced⟩ := exists_literal_of_mem_replacementsOf keeps ⟨0, rfl⟩ known
  obtain rfl := Except.ok.inj ((answers count).symm.trans answered)
  cases decides with
  | unmatched => cases replaced
  | external =>
      cases replaced
      cases isSpecifier
  | kept => cases replaced
  | changed matched =>
      cases replaced
      obtain ⟨entry, found, rfl⟩ := Option.map_eq_some_iff.1 matched
      refine ⟨node, literal, entry, named, rfl, value, found, ?_⟩
      rw [specifierReplacement, Literal.onOneLine_quoted]
      exact and_congr_right' (Alias.onOneLine_matchWith_iff
        (Alias.Importer.isAbsolute_base inRoot working filename)
        (Alias.Importer.isAbsolute_directory inRoot working) dependencies entry specifier)

end

/-- A configuration with one alias, whose name ends in a line feed. -/
def brokenName : Configuration where
  aliases := { entries := [{ name := "l\n", target := "./m", exact := false }] }
  externals := []
  path := none

/-- An import of a module below that name. -/
def brokenImport : String := "import 'l\\n/x'"

/-- The run over the import, as the file `/p/a.js`. -/
def brokenRun : Run Unit :=
  runTree
    { source := Source.ofString brokenImport
      importer := Alias.Importer.ofFile "/p" "/p/a.js" none
      dependencies := Dependencies.none
      globalObject := External.defaultGlobal }
    (atHand brokenName) "/p/a.js" brokenImport (Tree.ofSource .javascript brokenImport) ()

/-- A line feed that belongs to the name of an alias is gone when the alias is resolved, so the
literal stays on one line. -/
theorem broken_name_on_one_line :
    ∃ replacement ∈ replacementsOf brokenRun.visited,
      ¬ replacement.specifier.OnOneLine ∧ replacement.text.OnOneLine := by
  have found : ((replacementsOf brokenRun.visited).map fun replacement =>
      (replacement.kind, replacement.replaced, replacement.specifier)) =
        [(.specifier, "'l\\n/x'", Text.ofString "l\n/x")] := by decide +kernel
  obtain ⟨replacement, only, same⟩ := List.map_eq_singleton_iff.1 found
  obtain ⟨isSpecifier, replaced, specifier⟩ :
      replacement.kind = .specifier ∧ replacement.replaced = "'l\\n/x'" ∧
        replacement.specifier = Text.ofString "l\n/x" := by simpa using same
  have known : replacement ∈ replacementsOf brokenRun.visited := only ▸ List.mem_singleton_self _
  have isEntry : brokenName.aliases.find (Text.ofString "l\n/x") =
      some { name := "l\n", target := "./m", exact := false } := by decide +kernel
  obtain ⟨_, literal, entry, _, isLiteral, _, applies, oneLine⟩ :=
    replaced_literal_on_one_line_iff (by decide) brokenImport "/p/a.js" none Dependencies.none
      External.defaultGlobal (Tree.ofSource .javascript brokenImport)
      (fun _ => rfl : AlwaysAnswers (atHand brokenName) () brokenName) replacement known
      isSpecifier
  rw [specifier] at applies oneLine
  obtain rfl := Option.some.inj (isEntry.symm.trans applies)
  refine ⟨replacement, known, ?_, oneLine.2 ⟨?_, by decide +kernel⟩⟩
  · rw [specifier]
    decide +kernel
  · rw [literalQuote, isLiteral, replaced]
    decide +kernel

/-- A line feed that is escaped in a literal and follows the alias is written as it is, which breaks
the literal that is put in place in two. -/
theorem escaped_break_is_written :
    ∃ result, (givenRun "import 'l/\\n'").result = .ok result ∧
      result.code = "import './m/\n'" ∧
      ∃ replacement ∈ result.replacements, replacement.kind = .specifier ∧
        ¬ replacement.text.OnOneLine := by
  have written : (givenRun "import 'l/\\n'").result.toOption.map (fun result =>
      (result.code, result.replacements.map fun replacement =>
        (replacement.kind, Decidable.decide replacement.text.OnOneLine))) =
        some ("import './m/\n'", [(.specifier, false)]) := by decide +kernel
  obtain ⟨result, returned, same⟩ := Option.map_eq_some_iff.1 written
  obtain ⟨replacement, only, told⟩ :=
    List.map_eq_singleton_iff.1 (congrArg Prod.snd same)
  refine ⟨result, eq_ok_of_toOption returned, congrArg Prod.fst same, replacement, ?_,
    congrArg Prod.fst told, ?_⟩
  · exact only ▸ List.mem_singleton_self _
  · exact of_decide_eq_false (congrArg Prod.snd told)

end Transform

end ModuleAlias
