/-
Module: ModuleAlias.Proofs.Replacement.NamedModules
Purpose: What is decided about a node that names a module. Whether it is an import or a call, the
  decision goes by the literal that names the module and comes to one of four outcomes; the outcome
  tells how the specifier is resolved and where an external module is looked up, and both depend on
  the specifier alone.
Imports: ModuleAlias.Replacement.Decision, ModuleAlias.Proofs.Computation
Main exports: Replacement.moduleNamed?, Replacement.Outcome.match?, Replacement.Outcome.lookup?,
  Replacement.Outcome.resolved, Replacement.decide_of_moduleLiteral?, Replacement.Decides,
  Replacement.exists_decides_of_literalValue, Replacement.tells_of_moduleNamed?
-/
import ModuleAlias.Replacement.Decision
import ModuleAlias.Proofs.Computation

namespace ModuleAlias.Replacement

open Script

/-- The literal by which an import or a call of `require` names a module. -/
def moduleLiteral? (source : Source) (node : Node) : Option Node :=
  if node.kind = .importStatement then
    (importLiteral node).filter (·.kind == .string)
  else if callsRequire source node then
    (callArguments node).head?.filter (·.kind == .string)
  else
    none

/-- The specifier by which an import or a call names a module. -/
def moduleNamed? (source : Source) (node : Node) : Option Text :=
  (moduleLiteral? source node).bind fun literal => (literalValue source literal).toOption

namespace Outcome

/-- The match that an outcome rests on. -/
def match? : Outcome → Option Alias.Match
  | skipped _ => none
  | kept _ found => some found
  | replaced _ found _ => some found

/-- The namespace and the property in which an outcome looks a module up, if it is external. -/
def lookup? (outcome : Outcome) : Option (Text × Text) :=
  (outcome.replacement?.bind (·.binding)).map fun binding => (binding.space, binding.key)

/-- The specifier that an outcome resolves another one to. -/
def resolved (outcome : Outcome) (specifier : Text) : Text :=
  (outcome.match?.map (·.specifier)).getD specifier

end Outcome

section
variable {task : Task} {configuration : Configuration} {node literal : Node} {specifier : Text}
  {outcome : Outcome}

/-!
### One inversion for imports and calls
-/

/-- How a node that names a module is replaced when the module is external. -/
def formOf (task : Task) (around : List Node) (node : Node) : Form :=
  if node.kind = .importStatement then importForm task node else callForm task around

/-- A node that names a module by a literal is decided about by that literal. -/
theorem decide_of_moduleLiteral? (around : List Node) (aliases : configuration.hasAliases = true)
    (named : moduleLiteral? task.source node = some literal) :
    decide task configuration around node =
      decideLiteral task configuration node literal (formOf task around node) := by
  unfold moduleLiteral? at named
  unfold decide formOf
  split at named
  · rename_i isImport
    obtain ⟨imported, isString⟩ := Option.filter_eq_some_iff.1 named
    have isString' : literal.kind = .string := by simpa using isString
    rw [if_pos isImport, if_pos isImport, decideImport, aliases, imported]
    exact if_neg (absurd isString')
  · rename_i notImport
    rw [if_neg notImport, if_neg notImport, decideCall, aliases]
    split at named
    · rename_i calls
      obtain ⟨given, isString⟩ := Option.filter_eq_some_iff.1 named
      obtain ⟨rest, arguments⟩ := List.head?_eq_some_iff.1 given
      have isString' : literal.kind = .string := by simpa using isString
      rw [calls, arguments]
      exact if_neg (absurd isString')
    · cases named

/-- Any other node is skipped, and so is every node when there are no aliases. -/
theorem exists_skipped_of_unnamed (around : List Node)
    (unnamed : configuration.hasAliases = false ∨ moduleLiteral? task.source node = none) :
    ∃ reason, decide task configuration around node = .ok (.skipped reason) := by
  unfold moduleLiteral? at unnamed
  unfold decide
  split at unnamed
  · rename_i isImport
    rw [if_pos isImport, decideImport]
    cases aliases : configuration.hasAliases with
    | false => exact ⟨_, rfl⟩
    | true =>
        cases imported : importLiteral node with
        | none => exact ⟨_, rfl⟩
        | some literal =>
            have notString : literal.kind ≠ .string := by
              simpa [aliases, imported, Option.filter_eq_none_iff] using unnamed
            exact ⟨_, if_pos notString⟩
  · rename_i notImport
    rw [if_neg notImport, decideCall]
    cases aliases : configuration.hasAliases with
    | false => exact ⟨_, rfl⟩
    | true =>
        cases calls : callsRequire task.source node with
        | false => exact ⟨_, rfl⟩
        | true =>
            cases arguments : callArguments node with
            | nil => exact ⟨_, rfl⟩
            | cons first rest =>
                have notString : first.kind ≠ .string := by
                  simpa [aliases, calls, arguments, Option.filter_eq_none_iff] using unnamed
                exact ⟨_, if_pos notString⟩

/-- What is decided about a node that names a module by a literal for a specifier: there is no
match, or the module is external, or the specifier is resolved to another one, or to itself. -/
inductive Decides (task : Task) (configuration : Configuration) (node literal : Node) (form : Form)
    (specifier : Text) : Outcome → Prop where
  | unmatched
      (nothing : (Alias.resolve configuration.aliases task.dependencies specifier
        task.importer).found = none) :
      Decides task configuration node literal form specifier (.skipped .noMatch)
  | external {found : Alias.Match} {target : External.Target}
      (matched : (Alias.resolve configuration.aliases task.dependencies specifier
        task.importer).found = some found)
      (declared : externalTarget configuration specifier found = some target) :
      Decides task configuration node literal form specifier
        (.replaced specifier found (externalReplacement task node form specifier found target))
  | changed {found : Alias.Match}
      (matched : (Alias.resolve configuration.aliases task.dependencies specifier
        task.importer).found = some found)
      (internal : externalTarget configuration specifier found = none)
      (differs : found.specifier ≠ specifier) :
      Decides task configuration node literal form specifier
        (.replaced specifier found (specifierReplacement task node literal specifier found))
  | kept {found : Alias.Match}
      (matched : (Alias.resolve configuration.aliases task.dependencies specifier
        task.importer).found = some found)
      (internal : externalTarget configuration specifier found = none)
      (same : found.specifier = specifier) :
      Decides task configuration node literal form specifier (.kept specifier found)

theorem changed_resolve_iff {found : Alias.Match}
    (matched : (Alias.resolve configuration.aliases task.dependencies specifier
      task.importer).found = some found) :
    (Alias.resolve configuration.aliases task.dependencies specifier task.importer).changed = true ↔
      found.specifier ≠ specifier := by
  simp only [Alias.Resolution.changed, Alias.Resolution.specifier, matched, bne_iff_ne]
  rfl

/-- An external module is looked for under the target of the alias and then under the specifier. -/
theorem externalTarget_eq (configuration : Configuration) (specifier : Text) :
    externalTarget configuration specifier = fun found =>
      (configuration.externals.get? found.entry.target).or
        (configuration.externals.get? specifier) := by
  funext found
  rw [externalTarget, External.Table.lookup]
  cases first : configuration.externals.get? found.entry.target with
  | none => simp [first]
  | some target => simp [first]

/-- A literal with a value is decided about. -/
theorem exists_decides_of_literalValue (form : Form)
    (value : literalValue task.source literal = .ok specifier) :
    ∃ outcome, decideLiteral task configuration node literal form = .ok outcome ∧
      Decides task configuration node literal form specifier outcome := by
  unfold decideLiteral
  rw [value]
  cases matched : (Alias.resolve configuration.aliases task.dependencies specifier
      task.importer).found with
  | none =>
      refine ⟨.skipped .noMatch, ?_, .unmatched matched⟩
      simp only [bind, Except.bind, matched]
      rfl
  | some found =>
      cases declared : externalTarget configuration specifier found with
      | some target =>
          refine ⟨_, ?_, .external matched declared⟩
          simp only [bind, Except.bind, matched, declared]
          rfl
      | none =>
          by_cases same : found.specifier = specifier
          · refine ⟨_, ?_, .kept matched declared same⟩
            have unchanged := fun changed => (changed_resolve_iff matched).1 changed same
            simp only [bind, Except.bind, matched, declared, if_neg unchanged]
            rfl
          · refine ⟨_, ?_, .changed matched declared same⟩
            have changed := (changed_resolve_iff matched).2 same
            simp only [bind, Except.bind, matched, declared, if_pos changed]
            rfl

/-- What was decided about a literal rests on its value. -/
theorem exists_decides_of_decideLiteral {form : Form}
    (decided : decideLiteral task configuration node literal form = .ok outcome) :
    ∃ specifier, literalValue task.source literal = .ok specifier ∧
      Decides task configuration node literal form specifier outcome := by
  obtain ⟨specifier, value, _⟩ := exists_of_bind_eq_ok decided
  obtain ⟨outcome', decided', decides⟩ := exists_decides_of_literalValue form value
  obtain rfl := Except.ok.inj (decided'.symm.trans decided)
  exact ⟨specifier, value, decides⟩

/-- A decision fails only for a literal without a value. -/
theorem decideLiteral_eq_error_iff {form : Form} {fault : Fault} :
    decideLiteral task configuration node literal form = .error fault ↔
      literalValue task.source literal = .error fault := by
  cases value : literalValue task.source literal with
  | error fault' =>
      unfold decideLiteral
      rw [value]
      simp only [bind, Except.bind, Except.error.injEq]
  | ok specifier =>
      obtain ⟨outcome, decided, _⟩ := exists_decides_of_literalValue form value
      rw [decided]
      simp

/-- Only a node that names a module is replaced, and only under aliases. -/
theorem exists_decides_of_replacement? {around : List Node} {replacement : Replacement}
    (decided : decide task configuration around node = .ok outcome)
    (replaced : outcome.replacement? = some replacement) :
    configuration.hasAliases = true ∧ ∃ literal specifier,
      moduleLiteral? task.source node = some literal ∧
        literalValue task.source literal = .ok specifier ∧
        Decides task configuration node literal (formOf task around node) specifier outcome := by
  have skips (unnamed : configuration.hasAliases = false ∨
      moduleLiteral? task.source node = none) : False := by
    obtain ⟨reason, skipped⟩ := exists_skipped_of_unnamed around unnamed
    obtain rfl := Except.ok.inj (skipped.symm.trans decided)
    cases replaced
  have aliases : configuration.hasAliases = true := by
    cases none : configuration.hasAliases with
    | false => exact (skips (Or.inl none)).elim
    | true => rfl
  cases named : moduleLiteral? task.source node with
  | none => exact (skips (Or.inr named)).elim
  | some literal =>
      rw [decide_of_moduleLiteral? around aliases named] at decided
      obtain ⟨specifier, value, decides⟩ := exists_decides_of_decideLiteral decided
      exact ⟨aliases, literal, specifier, rfl, value, decides⟩

/-!
### What an outcome tells
-/

/-- An outcome tells how a specifier is resolved, and where its module is looked up. -/
def Outcome.Tells (outcome : Outcome) (task : Task) (configuration : Configuration)
    (specifier : Text) : Prop :=
  let found :=
    (Alias.resolve configuration.aliases task.dependencies specifier task.importer).found
  outcome.match? = found ∧
    outcome.lookup? = (found.bind (externalTarget configuration specifier)).map fun target =>
      (target.space, target.lookupKey specifier)

theorem Decides.tells {form : Form}
    (decides : Decides task configuration node literal form specifier outcome) :
    outcome.Tells task configuration specifier := by
  unfold Outcome.Tells
  cases decides with
  | unmatched nothing =>
      rw [nothing]
      exact ⟨rfl, rfl⟩
  | external matched declared =>
      simp only [matched, Option.bind_some, declared]
      exact ⟨rfl, rfl⟩
  | changed matched internal differs =>
      simp only [matched, Option.bind_some, internal]
      exact ⟨rfl, rfl⟩
  | kept matched internal same =>
      simp only [matched, Option.bind_some, internal]
      exact ⟨rfl, rfl⟩

/-- Without aliases nothing is resolved. -/
theorem found_eq_none_of_not_hasAliases (none : configuration.hasAliases = false) :
    (Alias.resolve configuration.aliases task.dependencies specifier task.importer).found =
      Option.none := by
  have empty : configuration.aliases.entries = [] := by
    simpa [Configuration.hasAliases] using none
  simp [Alias.resolve, Alias.Table.find, empty]

theorem tells_of_not_hasAliases (none : configuration.hasAliases = false) (reason : SkipReason) :
    (Outcome.skipped reason).Tells task configuration specifier := by
  unfold Outcome.Tells
  rw [found_eq_none_of_not_hasAliases none]
  exact ⟨rfl, rfl⟩

/-- What is decided about a node that names a module tells how its specifier is resolved. -/
theorem tells_of_moduleNamed? {around : List Node}
    (decided : decide task configuration around node = .ok outcome)
    (named : moduleNamed? task.source node = some specifier) :
    outcome.Tells task configuration specifier := by
  obtain ⟨literal, isLiteral, value⟩ := Option.bind_eq_some_iff.1 named
  have value' : literalValue task.source literal = .ok specifier := eq_ok_of_toOption value
  cases aliases : configuration.hasAliases with
  | false =>
      obtain ⟨reason, skipped⟩ := exists_skipped_of_unnamed around (Or.inl aliases)
      obtain rfl := Except.ok.inj (skipped.symm.trans decided)
      exact tells_of_not_hasAliases aliases reason
  | true =>
      rw [decide_of_moduleLiteral? around aliases isLiteral] at decided
      obtain ⟨specifier', value'', decides⟩ := exists_decides_of_decideLiteral decided
      obtain rfl := Except.ok.inj (value''.symm.trans value')
      exact decides.tells

end

end ModuleAlias.Replacement
