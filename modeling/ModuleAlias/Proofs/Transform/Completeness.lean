/-
Module: ModuleAlias.Proofs.Transform.Completeness
Purpose: Which imports and calls a transform leaves as they are although an alias applies to them. A
  walk does not go on below a node that is replaced. Where the whole node is replaced nothing is
  lost; where it is only the specifier of a call, what else the call holds is left behind.
Imports: ModuleAlias.Proofs.Transform.Splicing, ModuleAlias.Proofs.Transform.SteadyRuns
Main exports: Replacement.isAliased, Replacement.Covers, Transform.ReplacedAt,
  Transform.mem_replacements_iff, Transform.LeftBehind, Transform.rewritten_or_covered_iff
-/
import ModuleAlias.Proofs.Transform.Splicing
import ModuleAlias.Proofs.Transform.SteadyRuns

namespace ModuleAlias

open Script

namespace Replacement

section
variable {task : Task} {configuration : Configuration} {around : List Node} {node : Node}
  {text : String} {low high : Nat}

/-- Whether an alias applies to the module that a node names: the specifier is resolved to another
one, or the module is declared external. -/
def isAliased (task : Task) (configuration : Configuration) (node : Node) : Bool :=
  (moduleNamed? task.source node).any fun specifier =>
    let resolution :=
      Alias.resolve configuration.aliases task.dependencies specifier task.importer
    resolution.found.any fun found =>
      resolution.changed || (externalTarget configuration specifier found).isSome

/-- A replacement takes the place of everything in a node. -/
def Covers (replacement : Replacement) (node : Node) : Prop :=
  replacement.start ≤ node.start ∧ node.stop ≤ replacement.stop

instance (replacement : Replacement) (node : Node) : Decidable (replacement.Covers node) :=
  inferInstanceAs (Decidable (_ ∧ _))

/-- What is decided about a node to which an alias applies is a replacement. -/
theorem exists_replacement_of_isAliased (around : List Node)
    (aliased : isAliased task configuration node = true) :
    ∃ outcome replacement, decide task configuration around node = .ok outcome ∧
      outcome.replacement? = some replacement := by
  obtain ⟨specifier, named, aliased⟩ := (Option.any_eq_true _ _).1 aliased
  obtain ⟨found, matched, applies⟩ := (Option.any_eq_true _ _).1 aliased
  obtain ⟨literal, isLiteral, value⟩ := Option.bind_eq_some_iff.1 named
  have aliases : configuration.hasAliases = true := by
    cases aliases : configuration.hasAliases with
    | true => rfl
    | false =>
        rw [found_eq_none_of_not_hasAliases aliases] at matched
        cases matched
  obtain ⟨outcome, decided, decides⟩ :=
    exists_decides_of_literalValue (formOf task around node) (eq_ok_of_toOption value)
  rw [← decide_of_moduleLiteral? around aliases isLiteral] at decided
  cases decides with
  | unmatched nothing =>
      rw [nothing] at matched
      cases matched
  | external matched' declared => exact ⟨_, _, decided, rfl⟩
  | changed matched' internal differs => exact ⟨_, _, decided, rfl⟩
  | kept matched' internal same =>
      obtain rfl := Option.some.inj (matched'.symm.trans matched)
      have changed : (Alias.resolve configuration.aliases task.dependencies specifier
          task.importer).changed = true := by
        simpa [internal] using applies
      exact absurd same ((changed_resolve_iff matched).1 changed)

/-- A node to which an alias applies has at least the bytes of a literal. -/
theorem nonempty_of_isAliased (lies : node.LiesOver text low high)
    (aliased : isAliased task configuration node = true) : node.start < node.stop := by
  obtain ⟨specifier, named, _⟩ := (Option.any_eq_true _ _).1 aliased
  obtain ⟨literal, isLiteral, _⟩ := Option.bind_eq_some_iff.1 named
  obtain ⟨string, inside⟩ := inside_of_moduleLiteral? isLiteral
  have lies' := lies.of_inside inside
  have nonempty := lies'.nonempty_of_string string
  have bounds := lies'.bounds
  omega

/-- Unless it is only a specifier that is replaced, the whole node is. -/
theorem covers_of_decide {outcome : Outcome} {replacement : Replacement}
    (decided : decide task configuration around node = .ok outcome)
    (replaced : outcome.replacement? = some replacement) :
    replacement.kind = .specifier ∨ replacement.Covers node := by
  obtain ⟨_, literal, specifier, _, _, decides⟩ := exists_decides_of_replacement? decided replaced
  cases decides with
  | unmatched => cases replaced
  | external =>
      cases replaced
      exact Or.inr ⟨Nat.le_refl _, Nat.le_refl _⟩
  | changed =>
      cases replaced
      exact Or.inl rfl
  | kept => cases replaced

end

end Replacement

namespace Transform

open Replacement

section
variable {σ : Type} {text : String} {task : Task} {configurations : ConfigurationSource σ}
  {state : σ} {configuration : Configuration} {filename : Text} {tree : Tree text}
  {root : Node} {place outer first second : Place} {replacement replacement' : Replacement}

/-!
### Places where something is replaced
-/

/-- A walk comes to a place, and what is decided about the candidate there is a replacement. -/
structure ReplacedAt (task : Task) (configuration : Configuration) (root : Node) (place : Place)
    (replacement : Replacement) : Prop where
  comes : ComesTo task configuration root place
  candidate : isCandidate place.node = true
  decides : ∃ outcome, decide task configuration place.around place.node = .ok outcome ∧
    outcome.replacement? = some replacement

namespace ReplacedAt

theorem unique (replaced : ReplacedAt task configuration root place replacement)
    (replaced' : ReplacedAt task configuration root place replacement') :
    replacement = replacement' := by
  obtain ⟨outcome, decided, some⟩ := replaced.decides
  obtain ⟨outcome', decided', some'⟩ := replaced'.decides
  obtain rfl := Except.ok.inj (decided.symm.trans decided')
  exact Option.some.inj (some.symm.trans some')

/-- A walk does not go on from a place where something is replaced. -/
theorem not_goesOn (replaced : ReplacedAt task configuration root place replacement) :
    ¬ place.GoesOn (findAt task configuration) := by
  obtain ⟨outcome, decided, some⟩ := replaced.decides
  refine not_goesOn_iff.2 ⟨replaced.candidate, ?_⟩
  intro outcome' decided'
  obtain rfl := Except.ok.inj (decided.symm.trans decided')
  rw [some]
  rfl

/-- A walk comes to nothing else within a place where something is replaced. -/
theorem eq_of_within (replaced : ReplacedAt task configuration root outer replacement)
    (comes : ComesTo task configuration root place) (within : place.Within outer) :
    place = outer := by
  by_contra proper
  exact replaced.not_goesOn (comes.goesOn within replaced.comes.within proper)

section
variable {low high : Nat} (lies : root.LiesOver text low high)

include lies

theorem liesOver (replaced : ReplacedAt task configuration root place replacement) :
    place.node.LiesOver text root.start root.stop :=
  lies.of_inside replaced.comes.within.inside

/-- What is within a place where something is replaced lies in the range of its node. -/
theorem contains (replaced : ReplacedAt task configuration root outer replacement)
    (within : place.Within outer) :
    outer.node.start ≤ place.node.start ∧ place.node.stop ≤ outer.node.stop := by
  have bounds := ((replaced.liesOver lies).of_inside within.inside).bounds
  exact ⟨bounds.1, bounds.2.2⟩

/-- What is replaced at a place lies inside its node. -/
theorem bounds (replaced : ReplacedAt task configuration root place replacement) :
    place.node.start ≤ replacement.start ∧ replacement.stop ≤ place.node.stop := by
  obtain ⟨outcome, decided, some⟩ := replaced.decides
  exact (takesPlaceIn_of_decide decided some).bounds (replaced.liesOver lies)

/-- Of two places of a tree over a text where something is replaced, one ends before the other
begins. -/
theorem eq_or_apart (replaced : ReplacedAt task configuration root first replacement)
    (replaced' : ReplacedAt task configuration root second replacement') :
    first = second ∨
      first.node.stop ≤ second.node.start ∨ second.node.stop ≤ first.node.start := by
  have lies' : (Place.root root).node.LiesOver text low high := lies
  rcases Place.nested_or_apart lies' replaced.comes.within replaced'.comes.within with
    inner | outer | apart
  · exact Or.inl (replaced'.eq_of_within replaced.comes inner)
  · exact Or.inl (replaced.eq_of_within replaced'.comes outer).symm
  · exact Or.inr apart

/-- A place where something is replaced shares no bytes with one inside another such place. -/
theorem eq_of_shares (replaced : ReplacedAt task configuration root outer replacement)
    (within : place.Within outer) (nonempty : place.node.start < place.node.stop)
    (replaced' : ReplacedAt task configuration root first replacement')
    (begins : first.node.start ≤ place.node.start) (ends : place.node.stop ≤ first.node.stop) :
    first = outer := by
  have range := replaced.contains lies within
  rcases replaced'.eq_or_apart lies replaced with same | before | after
  · exact same
  · omega
  · omega

/-- The node at a place properly within one where something is replaced is replaced nowhere. -/
theorem node_ne_of_within (replaced : ReplacedAt task configuration root outer replacement)
    (within : place.Within outer) (proper : place ≠ outer)
    (nonempty : place.node.start < place.node.stop)
    (replaced' : ReplacedAt task configuration root first replacement') :
    first.node ≠ place.node := by
  intro same
  obtain rfl : first = outer := by
    apply replaced.eq_of_shares lies within nonempty replaced'
    · rw [same]
    · rw [same]
  -- The node would lie properly within itself, so its tree would be smaller than itself.
  have smaller := within.size_lt proper
  rw [same] at smaller
  exact absurd smaller (Nat.lt_irrefl _)

/-- What lies within a place where something is replaced is covered by nothing that is replaced
elsewhere. -/
theorem eq_of_covers (replaced : ReplacedAt task configuration root outer replacement)
    (within : place.Within outer) (nonempty : place.node.start < place.node.stop)
    (replaced' : ReplacedAt task configuration root first replacement')
    (covers : replacement'.Covers place.node) : replacement = replacement' := by
  have range := replaced'.bounds lies
  obtain rfl : first = outer := by
    apply replaced.eq_of_shares lies within nonempty replaced'
    · exact Nat.le_trans range.1 covers.1
    · exact Nat.le_trans covers.2 range.2
  exact replaced.unique replaced'

end

theorem specifier_or_covers
    (replaced : ReplacedAt task configuration root place replacement) :
    replacement.kind = .specifier ∨ replacement.Covers place.node := by
  obtain ⟨outcome, decided, some⟩ := replaced.decides
  exact covers_of_decide decided some

end ReplacedAt

/-- A run that returns a result was not ended by a failure of its walk. -/
theorem failure_eq_none_of_result {result : Result}
    (done : (runTree task configurations filename text tree state).result = .ok result) :
    (walk (visit task configurations) state tree.root).failure = none := by
  cases failure : (walk (visit task configurations) state tree.root).failure with
  | none => rfl
  | some fault =>
      simp only [runTree, failure] at done
      cases done

/-- What a run that returns a result has recorded of replaced nodes is what was replaced at the
places that its walk came to. -/
theorem exists_visited_iff (answers : AlwaysAnswers configurations state configuration)
    {result : Result}
    (done : (runTree task configurations filename text tree state).result = .ok result)
    {node : Node} :
    (∃ visited ∈ (runTree task configurations filename text tree state).visited,
        visited.node = node ∧ visited.outcome.replacement? = some replacement) ↔
      ∃ place, ReplacedAt task configuration tree.root place replacement ∧ place.node = node := by
  have recorded := @mem_recorded_iff σ task configurations state configuration tree.root answers
    (failure_eq_none_of_result done)
  constructor
  · rintro ⟨visited, known, rfl, replaced⟩
    obtain ⟨place, comes, candidate, same, decided⟩ := recorded.1 known
    exact ⟨place, ⟨comes, candidate, visited.outcome, decided, replaced⟩, same.symm⟩
  · rintro ⟨place, ⟨comes, candidate, outcome, decided, replaced⟩, rfl⟩
    exact ⟨{ node := place.node, outcome },
      recorded.2 ⟨place, comes, candidate, rfl, decided⟩, rfl, replaced⟩

/-- A run that returns a result reports what was replaced at the places that its walk came to. -/
theorem mem_replacements_iff (answers : AlwaysAnswers configurations state configuration)
    (whole : task.source = Source.ofString text) {result : Result}
    (done : (runTree task configurations filename text tree state).result = .ok result) :
    replacement ∈ result.replacements ↔
      ∃ place, ReplacedAt task configuration tree.root place replacement := by
  rw [(result_of_runTree whole done).1, replacementsOf, List.mem_filterMap]
  constructor
  · rintro ⟨visited, known, replaced⟩
    obtain ⟨place, replacedAt, _⟩ :=
      (exists_visited_iff answers done).1 ⟨visited, known, rfl, replaced⟩
    exact ⟨place, replacedAt⟩
  · rintro ⟨place, replacedAt⟩
    obtain ⟨visited, known, _, replaced⟩ :=
      (exists_visited_iff answers done).2 ⟨place, replacedAt, rfl⟩
    exact ⟨visited, known, replaced⟩

/-!
### Places that are left behind
-/

/-- A place lies within a node of which only the specifier is replaced, and is no part of that. -/
def LeftBehind (task : Task) (configuration : Configuration) (root : Node) (place : Place) : Prop :=
  ∃ outer replacement, ReplacedAt task configuration root outer replacement ∧
    replacement.kind = .specifier ∧ place.Within outer ∧ place ≠ outer ∧
    ¬ replacement.Covers place.node

/-- A place that the walk does not come to lies within one where something is replaced. -/
theorem exists_replacedAt_of_not_comesTo
    (answers : AlwaysAnswers configurations state configuration)
    (sound : (walk (visit task configurations) state root).failure = none)
    (within : place.Within (Place.root root)) (missed : ¬ ComesTo task configuration root place) :
    ∃ outer replacement, ReplacedAt task configuration root outer replacement ∧
      place.Within outer ∧ place ≠ outer := by
  rcases Place.reached_or_exists_cut within with reached | ⟨outer, comes, cut, inner, proper⟩
  · exact absurd reached missed
  · obtain ⟨candidate, replaces⟩ := not_goesOn_iff.1 cut
    obtain ⟨outcome, decided⟩ := (failure_eq_none_iff answers).1 sound outer comes candidate
    obtain ⟨replacement, replaced⟩ := Option.isSome_iff_exists.1 (replaces outcome decided)
    exact ⟨outer, replacement, ⟨comes, candidate, outcome, decided, replaced⟩, inner, proper⟩

end

section
variable {σ : Type} (text : String) (importer : Alias.Importer) (dependencies : Dependencies)
  (globalObject : Text) (configurations : ConfigurationSource σ) (filename : Text)
  (tree : Tree text) (state : σ) (configuration : Configuration)

/-- A transform that returns a result has dealt with every import and call to which an alias
applies, by rewriting it or by replacing a range that it lies in, with one exception: what lies
within a call of which only the specifier is replaced, outside of the specifier, is left behind as
it is. -/
theorem rewritten_or_covered_iff (answers : AlwaysAnswers configurations state configuration) :
    let task : Task :=
      { source := Source.ofString text, importer, dependencies, globalObject }
    let run := runTree task configurations filename text tree state
    ∀ result, run.result = .ok result → ∀ place : Place, place.Within (Place.root tree.root) →
      isCandidate place.node = true → isAliased task configuration place.node = true →
        ((∃ visited ∈ run.visited, visited.node = place.node ∧
            ∃ replacement ∈ result.replacements,
              visited.outcome.replacement? = some replacement) ∨
          (∃ replacement ∈ result.replacements, replacement.Covers place.node) ↔
            ¬ LeftBehind task configuration tree.root place) := by
  intro task run result done place within candidate aliased
  have reports {replacement : Replacement} :
      replacement ∈ result.replacements ↔
        ∃ place, ReplacedAt task configuration tree.root place replacement :=
    mem_replacements_iff answers rfl done
  have lies : place.node.LiesOver text tree.root.start tree.root.stop :=
    tree.lies.of_inside within.inside
  have nonempty := nonempty_of_isAliased lies aliased
  constructor
  · rintro dealtWith ⟨outer, replacement, replaced, isSpecifier, inner, proper, uncovered⟩
    rcases dealtWith with
      ⟨visited, known, same, replacement', _, replaced'⟩ | ⟨replacement', reported, covers⟩
    · obtain ⟨first, replacedAt, same'⟩ :=
        (exists_visited_iff answers done).1 ⟨visited, known, same, replaced'⟩
      exact replaced.node_ne_of_within tree.lies inner proper nonempty replacedAt same'
    · obtain ⟨first, replacedAt⟩ := reports.1 reported
      obtain rfl := replaced.eq_of_covers tree.lies inner nonempty replacedAt covers
      exact uncovered covers
  · intro notLeft
    -- What the walk comes to is replaced itself; what it misses lies where it stopped.
    by_cases comes : ComesTo task configuration tree.root place
    · obtain ⟨outcome, replacement, decided, replaced⟩ :=
        exists_replacement_of_isAliased place.around aliased
      have replacedAt : ReplacedAt task configuration tree.root place replacement :=
        ⟨comes, candidate, outcome, decided, replaced⟩
      obtain ⟨visited, known, same, replaced'⟩ :=
        (exists_visited_iff answers done).2 ⟨place, replacedAt, rfl⟩
      exact Or.inl ⟨visited, known, same, replacement, reports.2 ⟨place, replacedAt⟩, replaced'⟩
    · obtain ⟨outer, replacement, replacedAt, inner, proper⟩ :=
        exists_replacedAt_of_not_comesTo answers (failure_eq_none_of_result done) within comes
      refine Or.inr ⟨replacement, reports.2 ⟨outer, replacedAt⟩, ?_⟩
      by_contra uncovered
      rcases replacedAt.specifier_or_covers with isSpecifier | covers
      · exact notLeft ⟨outer, replacement, replacedAt, isSpecifier, inner, proper, uncovered⟩
      · have range := replacedAt.contains tree.lies inner
        exact uncovered ⟨Nat.le_trans covers.1 range.1, Nat.le_trans range.2 covers.2⟩

end

/-!
### A call in the arguments of another one
-/

/-- A call whose second argument is a call to which the same alias applies. -/
def nestedText : String := "require('l', require('l'))"

/-- The configuration with one alias, for a file beside the importing one. -/
def nestedConfiguration : Configuration where
  aliases := Alias.Table.ofMembers [("l", .text "./m")]
  externals := []
  path := none

/-- What the run over the nested calls depends on, as the file `/p/a.js`. -/
def nestedTask : Task where
  source := Source.ofString nestedText
  importer := Alias.Importer.ofFile "/p" "/p/a.js" none
  dependencies := Dependencies.none
  globalObject := External.defaultGlobal

/-- The syntax tree of the nested calls. -/
def nestedTree : Tree nestedText := Tree.ofSource .javascript nestedText

/-- The run over the nested calls. -/
def nestedRun : Run Unit :=
  runTree nestedTask (atHand nestedConfiguration) "/p/a.js" nestedText nestedTree ()

/-- The place of the inner call. -/
def nestedCall? : Option Place := (Place.root nestedTree.root).at? [0, 0, 1, 1]

/-- The run over the nested calls returns a result, an alias applies to the inner call, and nothing
is done about it. -/
theorem exists_missed_call :
    ∃ (result : Result) (place : Place), nestedRun.result = .ok result ∧
      place.Within (Place.root nestedTree.root) ∧ isCandidate place.node = true ∧
      isAliased nestedTask nestedConfiguration place.node = true ∧
      (∀ visited ∈ nestedRun.visited, visited.node ≠ place.node) ∧
      ∀ replacement ∈ result.replacements, ¬ replacement.Covers place.node := by
  have returns : nestedRun.result.toOption.isSome = true := by decide +kernel
  obtain ⟨result, returned⟩ := Option.isSome_iff_exists.1 returns
  have done : nestedRun.result = .ok result := eq_ok_of_toOption returned
  have reported : result.replacements = replacementsOf nestedRun.visited :=
    (result_of_runTree rfl done).1
  have missed : nestedCall?.any (fun place => isCandidate place.node &&
      isAliased nestedTask nestedConfiguration place.node &&
      nestedRun.visited.all (fun visited => visited.node.start != place.node.start) &&
      (replacementsOf nestedRun.visited).all fun replacement =>
        !decide (replacement.Covers place.node)) = true := by decide +kernel
  obtain ⟨place, found, facts⟩ := (Option.any_eq_true _ _).1 missed
  simp only [Bool.and_eq_true, List.all_eq_true, bne_iff_ne, Bool.not_eq_true',
    decide_eq_false_iff_not] at facts
  obtain ⟨⟨⟨candidate, aliased⟩, elsewhere⟩, uncovered⟩ := facts
  refine ⟨result, place, done, Place.within_of_at? found, candidate, aliased, ?_, ?_⟩
  · intro visited known same
    exact elsewhere visited known (congrArg Node.start same)
  · rw [reported]
    exact uncovered

/-- The inner call is left behind in the outer one, of which only the specifier is replaced. -/
theorem nested_call_is_left_behind :
    ∃ place : Place, place.Within (Place.root nestedTree.root) ∧
      LeftBehind nestedTask nestedConfiguration nestedTree.root place := by
  obtain ⟨result, place, done, within, candidate, aliased, elsewhere, uncovered⟩ :=
    exists_missed_call
  have answers : AlwaysAnswers (atHand nestedConfiguration) () nestedConfiguration :=
    fun _ => rfl
  refine ⟨place, within, ?_⟩
  by_contra notLeft
  have dealtWith := (rewritten_or_covered_iff nestedText (Alias.Importer.ofFile "/p" "/p/a.js" none)
    Dependencies.none External.defaultGlobal (atHand nestedConfiguration) "/p/a.js" nestedTree ()
    nestedConfiguration answers result done place within candidate aliased).2 notLeft
  rcases dealtWith with ⟨visited, known, same, _⟩ | ⟨replacement, reported, covers⟩
  · exact elsewhere visited known same
  · exact uncovered replacement reported covers

/-- An alias applies to the inner of two nested calls, and it is neither rewritten nor in a range
that is replaced. -/
theorem nested_call_survives :
    nestedRun.hasErrors = false ∧
      ∃ (result : Result) (place : Place), nestedRun.result = .ok result ∧
        result.code = "require('./m', require('l'))" ∧
        place.Within (Place.root nestedTree.root) ∧ isCandidate place.node = true ∧
        isAliased nestedTask nestedConfiguration place.node = true ∧
        ¬ ((∃ visited ∈ nestedRun.visited, visited.node = place.node ∧
            ∃ replacement ∈ result.replacements,
              visited.outcome.replacement? = some replacement) ∨
          ∃ replacement ∈ result.replacements, replacement.Covers place.node) := by
  obtain ⟨result, place, done, within, candidate, aliased, elsewhere, uncovered⟩ :=
    exists_missed_call
  have code : nestedRun.result.toOption.map Result.code =
      some "require('./m', require('l'))" := by decide +kernel
  rw [done] at code
  refine ⟨by decide +kernel, result, place, done, Option.some.inj code, within, candidate, aliased,
    ?_⟩
  rintro (⟨visited, known, same, _⟩ | ⟨replacement, reported, covers⟩)
  · exact elsewhere visited known same
  · exact uncovered replacement reported covers

end Transform

end ModuleAlias
