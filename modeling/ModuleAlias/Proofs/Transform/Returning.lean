/-
Module: ModuleAlias.Proofs.Transform.Returning
Purpose: When a transform returns a result. Under one configuration a run fails in two ways only:
  it comes to an import or a call whose module is named with an escape that is too large, or it has
  read everything and a replacement cannot be written in UTF-8.
Imports: ModuleAlias.Proofs.Literal.LargeNumbers, ModuleAlias.Proofs.Replacement.Encoding,
  ModuleAlias.Proofs.Transform.Splicing, ModuleAlias.Proofs.Transform.SteadyRuns
Main exports: Replacement.Readable, Replacement.decide_eq_error_iff, Transform.ReadsEverything,
  Transform.exists_literal_of_mem_replacementsOf, Transform.WritesEverything,
  Transform.runTree_returns_iff
-/
import ModuleAlias.Proofs.Literal.LargeNumbers
import ModuleAlias.Proofs.Replacement.Encoding
import ModuleAlias.Proofs.Transform.Splicing
import ModuleAlias.Proofs.Transform.SteadyRuns

namespace ModuleAlias

open Script

/-!
### Decisions that fail
-/

namespace Replacement

section
variable {source : Source} {task : Task} {configuration : Configuration} {node literal : Node}
  {fault : Fault}

/-- If a node names a module by a literal, no escape in it has a number that is too large. -/
def Readable (source : Source) (node : Node) : Prop :=
  ∀ literal, moduleLiteral? source node = some literal →
    ∀ piece ∈ literalPieces source literal, ¬ piece.TooLarge

theorem literalValue_eq_error_iff :
    literalValue source literal = .error fault ↔
      fault = .escapeTooLarge ∧ ∃ piece ∈ literalPieces source literal, piece.TooLarge := by
  unfold literalValue
  cases value : Literal.valueOf (literalPieces source literal) with
  | ok specifier =>
      have fits : ¬ ∃ piece ∈ literalPieces source literal, piece.TooLarge := by
        intro tooLarge
        rw [(@Literal.valueOf_eq_error_iff _ .tooLarge).2 tooLarge] at value
        cases value
      simp [fits]
  | error fault' =>
      have tooLarge := Literal.valueOf_eq_error_iff.1 value
      cases fault'
      simp [tooLarge, eq_comm]

/-- Nothing can be decided about a node exactly if there are aliases and it names a module with an
escape that is too large. -/
theorem decide_eq_error_iff {around : List Node} :
    decide task configuration around node = .error fault ↔
      fault = .escapeTooLarge ∧ configuration.hasAliases = true ∧
        ¬ Readable task.source node := by
  have skips (unnamed : configuration.hasAliases = false ∨
      moduleLiteral? task.source node = none) :
      ¬ decide task configuration around node = .error fault := by
    obtain ⟨reason, skipped⟩ := exists_skipped_of_unnamed around unnamed
    rw [skipped]
    intro failed
    cases failed
  cases aliases : configuration.hasAliases with
  | false => simp [skips (Or.inl aliases)]
  | true =>
      cases named : moduleLiteral? task.source node with
      | none => simp [skips (Or.inr named), Readable, named]
      | some literal =>
          rw [decide_of_moduleLiteral? around aliases named, decideLiteral_eq_error_iff,
            literalValue_eq_error_iff]
          simp [Readable, named]

end

end Replacement

namespace Transform

open Replacement

section
variable {σ : Type} {text : String} {task : Task} {configurations : ConfigurationSource σ}
  {state : σ} {configuration : Configuration} {filename : Text} {tree : Tree text}

/-!
### Walks that fail
-/

/-- Under a configuration with aliases, every import and every call that a walk comes to names its
module without an escape that is too large. -/
def ReadsEverything (task : Task) (configuration : Configuration) (root : Node) : Prop :=
  configuration.hasAliases = true →
    ∀ place, ComesTo task configuration root place → isCandidate place.node = true →
      Readable task.source place.node

theorem failure_eq_none_iff_readsEverything
    (answers : AlwaysAnswers configurations state configuration) {root : Node} :
    (walk (visit task configurations) state root).failure = none ↔
      ReadsEverything task configuration root := by
  rw [failure_eq_none_iff answers]
  constructor
  · intro decides aliases place comes candidate
    obtain ⟨outcome, decided⟩ := decides place comes candidate
    by_contra unreadable
    rw [decide_eq_error_iff.2 ⟨rfl, aliases, unreadable⟩] at decided
    cases decided
  · intro reads place comes candidate
    cases decided : decide task configuration place.around place.node with
    | ok outcome => exact ⟨outcome, rfl⟩
    | error fault =>
        obtain ⟨_, aliases, unreadable⟩ := decide_eq_error_iff.1 decided
        exact absurd (reads aliases place comes candidate) unreadable

/-- What ends a walk under one configuration is an escape that is too large. -/
theorem eq_escapeTooLarge_of_failure
    (answers : AlwaysAnswers configurations state configuration) {root : Node} {fault : Fault}
    (failed : (walk (visit task configurations) state root).failure = some fault) :
    fault = .escapeTooLarge := by
  obtain ⟨place, _, _, fails⟩ := exists_comesTo_of_failure answers failed
  exact (decide_eq_error_iff.1 fails).1

/-!
### Results that cannot be written
-/

/-- Every replacement that was found can be written in UTF-8. -/
def WritesEverything (globalObject : Text) (visited : List Visited) : Prop :=
  ∀ replacement ∈ replacementsOf visited, replacement.Encodable globalObject

/-- Every replacement of a run was decided about a literal with a value, under a configuration that
was answered in a state with a property that requests keep. -/
theorem exists_literal_of_mem_replacementsOf {holds : σ → Prop}
    (keeps : ∀ state, holds state → holds (configurations state).2) (begins : holds state)
    {replacement : Replacement}
    (known : replacement ∈
      replacementsOf (runTree task configurations filename text tree state).visited) :
    ∃ state' configuration around node literal specifier outcome, holds state' ∧
      (configurations state').1 = .ok configuration ∧
      moduleLiteral? task.source node = some literal ∧
      literalValue task.source literal = .ok specifier ∧
      Decides task configuration node literal (formOf task around node) specifier outcome ∧
      outcome.replacement? = some replacement := by
  obtain ⟨visited, recorded, replaced⟩ := List.mem_filterMap.1 known
  obtain ⟨state', configuration, around, held, answered, _, decided⟩ :=
    exists_decide_of_mem_visited keeps begins recorded
  obtain ⟨_, literal, specifier, named, value, decides⟩ :=
    exists_decides_of_replacement? decided replaced
  exact ⟨state', configuration, around, visited.node, literal, specifier, visited.outcome, held,
    answered, named, value, decides, replaced⟩

/-- Every replacement of a run was decided about a node that names a module. -/
theorem exists_decides_of_mem_replacementsOf {replacement : Replacement}
    (known : replacement ∈
      replacementsOf (runTree task configurations filename text tree state).visited) :
    ∃ configuration around node literal specifier outcome,
      Decides task configuration node literal (formOf task around node) specifier outcome ∧
        outcome.replacement? = some replacement := by
  have keeps : ∀ _ : σ, True → True := fun _ _ => trivial
  obtain ⟨_, configuration, around, node, literal, specifier, outcome, _, _, _, _, decides,
    replaced⟩ := exists_literal_of_mem_replacementsOf keeps trivial known
  exact ⟨configuration, around, node, literal, specifier, outcome, decides, replaced⟩

/-- The edits of a run have bytes exactly if the replacements can be written. -/
theorem writesEverything_iff :
    let run := runTree task configurations filename text tree state
    WritesEverything task.globalObject run.visited ↔
      ∀ edit ∈ (replacementsOf run.visited).map editOf, edit.text.Encodable := by
  intro run
  unfold WritesEverything
  rw [List.forall_mem_map]
  apply forall₂_congr
  intro replacement known
  obtain ⟨_, _, _, _, _, _, decides, replaced⟩ := exists_decides_of_mem_replacementsOf known
  exact (decides.encodable_text_iff replaced).symm

/-- A run whose walk does not fail makes the replacements that were found, if there are any. -/
theorem result_of_sound
    (sound : (walk (visit task configurations) state tree.root).failure = none) :
    let run := runTree task configurations filename text tree state
    run.result =
      if (replacementsOf run.visited).isEmpty then
        .ok { filename, code := text, replacements := replacementsOf run.visited }
      else
        (codeOf task.source (replacementsOf run.visited)).map fun code =>
          { filename, code, replacements := replacementsOf run.visited } := by
  intro run
  simp only [run, runTree, sound]
  rfl

theorem exists_result_of_writesEverything (whole : task.source = Source.ofString text)
    (sound : (walk (visit task configurations) state tree.root).failure = none)
    (writes : WritesEverything task.globalObject
      (runTree task configurations filename text tree state).visited) :
    ∃ result, (runTree task configurations filename text tree state).result = .ok result := by
  rw [result_of_sound sound]
  split
  · exact ⟨_, rfl⟩
  · have encodable := writesEverything_iff.1 writes
    obtain ⟨bytes, stitched⟩ := Option.isSome_iff_exists.1 (Edit.isSome_stitched?_iff.2 encodable)
    obtain ⟨code, coded, _⟩ := codeOf_of_stitched? fitText_runTree stitched
    rw [whole, coded]
    exact ⟨_, rfl⟩

theorem result_of_not_writesEverything (whole : task.source = Source.ofString text)
    (sound : (walk (visit task configurations) state tree.root).failure = none)
    (unwritable : ¬ WritesEverything task.globalObject
      (runTree task configurations filename text tree state).visited) :
    (runTree task configurations filename text tree state).result =
      .error .notEncodable := by
  rw [result_of_sound sound]
  split
  · rename_i none
    refine absurd ?_ unwritable
    rw [WritesEverything, List.isEmpty_iff.1 none]
    exact List.forall_mem_nil _
  · have notWritten := mt writesEverything_iff.2 unwritable
    rw [← @Edit.isSome_stitched?_iff text.toUTF8 0 text.utf8ByteSize] at notWritten
    have unstitched := Option.not_isSome_iff_eq_none.1 notWritten
    rw [whole, codeOf_of_not_stitched? fitText_runTree unstitched]
    rfl

/-- Under one configuration a run fails because something cannot be read or because something
cannot be written. -/
theorem fault_cases_of_runTree (answers : AlwaysAnswers configurations state configuration)
    (whole : task.source = Source.ofString text) {fault : Fault}
    (failed : (runTree task configurations filename text tree state).result =
      .error fault) : fault = .escapeTooLarge ∨ fault = .notEncodable := by
  cases ended : (walk (visit task configurations) state tree.root).failure with
  | some fault' =>
      have same : fault' = fault := by
        simpa only [runTree, ended, Except.error.injEq] using failed
      exact Or.inl (same ▸ eq_escapeTooLarge_of_failure answers ended)
  | none =>
      by_cases writes : WritesEverything task.globalObject
          (runTree task configurations filename text tree state).visited
      · obtain ⟨result, returned⟩ := exists_result_of_writesEverything whole ended writes
        rw [returned] at failed
        cases failed
      · rw [result_of_not_writesEverything whole ended writes] at failed
        cases failed
        exact Or.inr rfl

/-- Where something was replaced, the result is not empty. -/
theorem size_pos_of_runTree (whole : task.source = Source.ofString text) {result : Result}
    (done : (runTree task configurations filename text tree state).result = .ok result)
    (replaced : result.replacements ≠ []) : 0 < result.code.toUTF8.size := by
  obtain ⟨same, stitched⟩ := result_of_runTree whole done
  obtain ⟨replacement, known⟩ := List.exists_mem_of_ne_nil _ replaced
  obtain ⟨_, _, _, _, _, _, decides, decided⟩ := exists_decides_of_mem_replacementsOf (same ▸ known)
  have filled : (editOf replacement).text ≠ [] := decides.text_ne_nil decided
  exact Edit.size_pos_of_stitched? (List.mem_map_of_mem known) filled stitched

end

section
variable {σ : Type} (text : String) (importer : Alias.Importer) (dependencies : Dependencies)
  (globalObject : Text) (configurations : ConfigurationSource σ) (filename : Text)
  (tree : Tree text) (state : σ) (configuration : Configuration)

/-- Under one configuration, a transform of a text returns a result exactly if every import and
call that its walk comes to can be read and every replacement can be written in UTF-8. What cannot
be read or written is not left alone: it makes the whole transform fail, in one of two ways. -/
theorem runTree_returns_iff (answers : AlwaysAnswers configurations state configuration) :
    let task : Task :=
      { source := Source.ofString text, importer, dependencies, globalObject }
    let run := runTree task configurations filename text tree state
    ((∃ result, run.result = .ok result) ↔
        ReadsEverything task configuration tree.root ∧
          WritesEverything globalObject run.visited) ∧
      (run.result = .error .escapeTooLarge ↔ ¬ ReadsEverything task configuration tree.root) ∧
      (run.result = .error .notEncodable ↔
        ReadsEverything task configuration tree.root ∧
          ¬ WritesEverything globalObject run.visited) := by
  intro task run
  have whole : task.source = Source.ofString text := rfl
  by_cases reads : ReadsEverything task configuration tree.root
  · have sound := (failure_eq_none_iff_readsEverything answers).2 reads
    by_cases writes : WritesEverything globalObject run.visited
    · obtain ⟨result, returned⟩ : ∃ result, run.result = .ok result :=
        exists_result_of_writesEverything whole sound writes
      simp [reads, writes, returned]
    · have failed : run.result = .error .notEncodable :=
        result_of_not_writesEverything whole sound writes
      simp [reads, writes, failed]
  · have failed : run.result = .error .escapeTooLarge := by
      cases failure : (walk (visit task configurations) state tree.root).failure with
      | none => exact absurd ((failure_eq_none_iff_readsEverything answers).1 failure) reads
      | some fault =>
          rw [← eq_escapeTooLarge_of_failure answers failure]
          simp only [run, runTree, failure]
    simp [reads, failed]

end

/-!
### Specifiers that are not left alone
-/

/-- Options that ask for the configuration file `c.json`. -/
def givenOptions : Options := { config := Text.ofString "c.json" }

/-- The run over a text, as the file `/p/a.js` beside a configuration with one alias. -/
def givenRun (text : String) : Run Provider :=
  runSource { options := givenOptions, dependencies := Dependencies.none }
    (Provider.targetAround "./m") text (Text.ofString "/p/a.js") {}

/-- The configuration that the options ask for can be loaded. -/
theorem exists_givenConfiguration :
    ∃ configuration, (configurationsOf (Provider.targetAround "./m") givenOptions {}).1 =
      .ok configuration := by
  have loads : (configurationsOf (Provider.targetAround "./m") givenOptions {}).1.toOption.isSome =
      true := by decide +kernel
  obtain ⟨configuration, loaded⟩ := Option.isSome_iff_exists.1 loads
  exact ⟨configuration, eq_ok_of_toOption loaded⟩

/-- Half of a surrogate pair behind an alias is kept in what the specifier is resolved to, which
then cannot be written. -/
theorem half_pair_is_not_written :
    let run := givenRun "import 'l/\\uD800'"
    run.hasErrors = false ∧ run.result = .error .notEncodable ∧
      ∃ replacement ∈ replacementsOf run.visited,
        ¬ replacement.Encodable External.defaultGlobal := by
  intro run
  obtain ⟨configuration, loaded⟩ := exists_givenConfiguration
  have fails : (run.result matches .error .notEncodable) = true := by decide +kernel
  have failed : run.result = .error .notEncodable := by
    split at fails
    · assumption
    · cases fails
  have causes := (runTree_returns_iff "import 'l/\\uD800'"
    (Alias.Importer.ofFile "/p" "/p/a.js" none) Dependencies.none External.defaultGlobal
    (configurationsOf (Provider.targetAround "./m") givenOptions) "/p/a.js"
    (Tree.ofSource .javascript "import 'l/\\uD800'") {} configuration
    (alwaysAnswers_of_answer loaded)).2.2.1 failed
  have unwritable : ¬ WritesEverything External.defaultGlobal run.visited := causes.2
  refine ⟨by decide +kernel, failed, ?_⟩
  simpa only [WritesEverything, not_forall, exists_prop] using unwritable

/-- A literal with an escape that is too large makes the transform fail, although the text is read
without errors and no alias applies. -/
theorem large_number_returns_nothing :
    let run := givenRun "require('\\u\x7b80000000\x7d')"
    run.hasErrors = false ∧ ∀ result, run.result ≠ .ok result := by
  intro run
  have nothing : run.result.toOption.isNone = true := by decide +kernel
  refine ⟨by decide +kernel, ?_⟩
  intro result returned
  rw [returned] at nothing
  cases nothing

end Transform

end ModuleAlias
