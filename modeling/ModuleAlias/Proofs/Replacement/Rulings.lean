/-
Module: ModuleAlias.Proofs.Replacement.Rulings
Purpose: One rule for imports and calls. Whatever names a module by a literal, what becomes of it
  depends on the text of the literal alone: the alias table is asked for the specifier, then the
  external modules for the target and for the specifier, and last the two specifiers are compared.
  Only the form of a look-up differs: an import becomes a declaration, a call an expression.
Imports: ModuleAlias.Proofs.Replacement.NamedModules
Main exports: Replacement.Ruling, Replacement.ruleFor, Replacement.Outcome.ruling?,
  Replacement.IsCut, Replacement.imports_and_calls_alike
-/
import ModuleAlias.Proofs.Replacement.NamedModules

namespace ModuleAlias.Replacement

open Script

/-!
### The rule
-/

/-- What is decided about a specifier, whichever node names its module. -/
inductive Ruling where
  | skipped (reason : SkipReason)
  /-- The specifier is resolved to itself, so that there is nothing to replace. -/
  | kept (specifier : Text)
  /-- The literal is replaced by another one. -/
  | rewritten (specifier resolved : Text) (replaced : String) (text : Text)
  /-- The module is external and is looked up by an expression. -/
  | lookedUp (specifier resolved space key expression : Text)
deriving DecidableEq, Repr

/-- The look-up of a property in a namespace of a global object. -/
def lookUp (globalObject space key : Text) : Text :=
  globalObject ++ External.Binding.property space ++ External.Binding.property key

/-- The rule for the specifier that a literal stands for. Of the names under which its module may be
external, the target of the alias comes first; a module that is not external is written with the
quote that the literal begins with, unless it is resolved to itself. -/
def ruleFor (configuration : Configuration) (dependencies : Dependencies)
    (importer : Alias.Importer) (globalObject : Text) (literal : String) (specifier : Text) :
    Ruling :=
  match (Alias.resolve configuration.aliases dependencies specifier importer).found with
  | none => .skipped .noMatch
  | some found =>
    match (configuration.externals.get? found.entry.target).or
        (configuration.externals.get? specifier) with
    | some target =>
      .lookedUp specifier found.moduleName target.space (target.lookupKey specifier)
        (lookUp globalObject target.space (target.lookupKey specifier))
    | none =>
      if found.specifier = specifier then .kept specifier
      else
        .rewritten specifier found.specifier literal
          (Literal.quoted [.scalar (literal.toList.headD '\'')] found.specifier)

/-- The rule for a literal that may have no value. Without aliases its value is not asked for. -/
def ruling (configuration : Configuration) (dependencies : Dependencies)
    (importer : Alias.Importer) (globalObject : Text) (literal : String)
    (value : Except Fault Text) : Except Fault Ruling :=
  if configuration.hasAliases then
    value.map (ruleFor configuration dependencies importer globalObject literal)
  else
    .ok (.skipped .noAliases)

/-- What an outcome says of a specifier. A replacement of the literal binds nothing, and the look-up
of an external module has a binding; nothing else is decided. -/
def Outcome.ruling? (globalObject : Text) : Outcome → Option Ruling
  | .skipped reason => some (.skipped reason)
  | .kept specifier _ => some (.kept specifier)
  | .replaced _ _ replacement =>
    match replacement.kind, replacement.binding with
    | .specifier, none =>
      some (.rewritten replacement.specifier replacement.resolved replacement.replaced
        replacement.text)
    | .external, some binding =>
      some (.lookedUp replacement.specifier replacement.resolved binding.space binding.key
        (binding.expression globalObject))
    | _, _ => none

/-!
### Decisions by the rule
-/

section
variable {task : Task} {configuration : Configuration} {around : List Node} {node literal : Node}
  {specifier : Text} {outcome : Outcome}

theorem literalQuote_eq (source : Source) (literal : Node) :
    literalQuote source literal = [.scalar ((source.textOf literal).toList.headD '\'')] := by
  unfold literalQuote
  cases (source.textOf literal).toList with
  | nil => rfl
  | cons quote inner => rfl

/-- What is decided about a literal for a specifier is what the rule says. -/
theorem Decides.ruling?_eq {form : Form}
    (decides : Decides task configuration node literal form specifier outcome) :
    outcome.ruling? task.globalObject =
      some (ruleFor configuration task.dependencies task.importer task.globalObject
        (task.source.textOf literal) specifier) := by
  unfold ruleFor
  cases decides with
  | unmatched nothing =>
      rw [nothing]
      rfl
  | external matched declared =>
      rw [externalTarget_eq] at declared
      simp only [matched, declared]
      rfl
  | changed matched internal differs =>
      rw [externalTarget_eq] at internal
      simp only [matched, internal, if_neg differs, ← literalQuote_eq]
      rfl
  | kept matched internal same =>
      rw [externalTarget_eq] at internal
      simp only [matched, internal, if_pos same]
      rfl

/-- Without aliases every import and every call is skipped for the same reason. -/
theorem decide_of_not_hasAliases (none : configuration.hasAliases = false) :
    decide task configuration around node = .ok (.skipped .noAliases) := by
  unfold decide decideImport decideCall
  rw [none]
  split
  · rfl
  · rfl

/-- An import or a call is decided about by the rule for the literal that names its module. -/
theorem map_ruling?_decide (around : List Node)
    (named : moduleLiteral? task.source node = some literal) :
    (decide task configuration around node).map (Outcome.ruling? task.globalObject) =
      (ruling configuration task.dependencies task.importer task.globalObject
        (task.source.textOf literal) (literalValue task.source literal)).map some := by
  unfold ruling
  cases aliases : configuration.hasAliases with
  | false =>
      rw [decide_of_not_hasAliases aliases]
      rfl
  | true =>
      rw [decide_of_moduleLiteral? around aliases named]
      cases value : literalValue task.source literal with
      | error fault =>
          rw [decideLiteral_eq_error_iff.2 value]
          rfl
      | ok specifier =>
          obtain ⟨outcome, decided, decides⟩ :=
            exists_decides_of_literalValue (formOf task around node) value
          rw [decided, Except.map, decides.ruling?_eq]
          rfl

/-- A replacement that binds a look-up is that of an external module, in the form of the node. -/
theorem exists_externalReplacement_of_decide {replacement : Replacement}
    {binding : External.Binding} (decided : decide task configuration around node = .ok outcome)
    (replaced : outcome.replacement? = some replacement)
    (binds : replacement.binding = some binding) :
    ∃ specifier found target,
      replacement =
        externalReplacement task node (formOf task around node) specifier found target := by
  obtain ⟨_, literal, specifier, _, _, decides⟩ := exists_decides_of_replacement? decided replaced
  cases decides with
  | unmatched => cases replaced
  | @external found target =>
      cases replaced
      exact ⟨specifier, found, target, rfl⟩
  | changed =>
      cases replaced
      cases binds
  | kept => cases replaced

/-- A look-up takes the form of the node that it replaces. -/
theorem text_of_decide {replacement : Replacement} {binding : External.Binding}
    (decided : decide task configuration around node = .ok outcome)
    (replaced : outcome.replacement? = some replacement)
    (binds : replacement.binding = some binding) :
    replacement.text = (formOf task around node).render binding := by
  obtain ⟨specifier, found, target, rfl⟩ :=
    exists_externalReplacement_of_decide decided replaced binds
  cases binds
  rfl

end

/-!
### Literals with the same text
-/

/-- A string literal is cut into pieces as the grammar cuts its text. -/
def IsCut (source : Source) (literal : Node) : Prop :=
  ∃ quote inner, (source.textOf literal).toList = quote :: inner ∧
    Literal.readPieces? quote inner = some (literalPieces source literal, [])

/-- The value of a literal depends on its text alone. -/
theorem IsCut.literalValue_eq {source source' : Source} {literal literal' : Node}
    (cut : IsCut source literal) (cut' : IsCut source' literal')
    (same : source.textOf literal = source'.textOf literal') :
    literalValue source literal = literalValue source' literal' := by
  obtain ⟨quote, inner, begins, pieces⟩ := cut
  obtain ⟨quote', inner', begins', pieces'⟩ := cut'
  rw [same, begins'] at begins
  obtain ⟨rfl, rfl⟩ := List.cons.inj begins
  obtain ⟨alike, _⟩ := Prod.mk.inj (Option.some.inj (pieces.symm.trans pieces'))
  rw [literalValue, literalValue, alike]

/-- An import whose module is named by a string literal, in whichever form, and a call of `require`
with a literal of the same text are treated alike, by the one rule for that text. If the module is
external, both look it up by the same expression, which the import binds by a declaration. -/
theorem imports_and_calls_alike (task : Task) (source' : Source) (configuration : Configuration)
    {statement call literal literal' : Node} (around around' : List Node)
    (isImport : statement.kind = .importStatement)
    (imported : importLiteral statement = some literal) (isString : literal.kind = .string)
    (isCall : call.kind = .callExpression) (required : callsRequire source' call = true)
    (given : (callArguments call).head? = some literal') (isString' : literal'.kind = .string)
    (cut : IsCut task.source literal) (cut' : IsCut source' literal')
    (same : task.source.textOf literal = source'.textOf literal') :
    let task' : Task := { task with source := source' }
    let ruled := ruling configuration task.dependencies task.importer task.globalObject
      (task.source.textOf literal) (literalValue task.source literal)
    (decide task configuration around statement).map (Outcome.ruling? task.globalObject) =
        ruled.map some ∧
      (decide task' configuration around' call).map (Outcome.ruling? task.globalObject) =
        ruled.map some ∧
      (∀ outcome replacement binding,
        decide task configuration around statement = .ok outcome →
          outcome.replacement? = some replacement → replacement.binding = some binding →
            replacement.text = binding.declaration task.globalObject) ∧
      (∀ outcome replacement binding,
        decide task' configuration around' call = .ok outcome →
          outcome.replacement? = some replacement → replacement.binding = some binding →
            replacement.text = binding.expression task.globalObject) := by
  intro task' ruled
  have notImport : ¬ call.kind = .importStatement := by
    rw [isCall]
    decide
  have named : moduleLiteral? task.source statement = some literal := by
    rw [moduleLiteral?, if_pos isImport, imported]
    simp [isString]
  have named' : moduleLiteral? task'.source call = some literal' := by
    rw [moduleLiteral?, if_neg notImport, if_pos required, given]
    simp [isString']
  refine ⟨map_ruling?_decide around named, ?called, ?declared, ?looked⟩
  case called =>
    have decided := @map_ruling?_decide task' configuration call literal' around' named'
    simp only [ruled, same, cut.literalValue_eq cut' same]
    exact decided
  case declared =>
    intro outcome replacement binding decided replaced binds
    rw [text_of_decide decided replaced binds, formOf, if_pos isImport]
    rfl
  case looked =>
    intro outcome replacement binding decided replaced binds
    rw [text_of_decide decided replaced binds, formOf, if_neg notImport]
    rfl

/-!
### A specifier with an escape
-/

/-- A file with the import `import a from 'l/\x61'`, which an alias applies to. -/
def importingTask : Task where
  source := Source.ofString "import a from 'l/\\x61'"
  importer := Alias.Importer.ofFile "/p" "/p/a.js" none
  dependencies := Dependencies.none
  globalObject := External.defaultGlobal

/-- The text of the same file with a call. -/
def requiringSource : Source := Source.ofString "require('l/\\x61')"

/-- An alias for a file, under which one module is declared external. -/
def partlyExternal : Configuration where
  aliases := Alias.Table.ofMembers [("l", .text "./m")]
  externals := [("l/a", { space := "libs", key := none })]
  path := none

/-- The literal of the import. -/
def importedLiteral : Node :=
  .mk .string .source 14 22
    [.mk .stringFragment .member 15 17 [], .mk .escapeSequence .member 17 21 []]

/-- The import. -/
def importingStatement : Node :=
  .mk .importStatement .member 0 22
    [.mk .importClause .member 7 8 [.mk .identifier .member 7 8 []], importedLiteral]

/-- The literal of the call. -/
def requiredLiteral : Node :=
  .mk .string .member 8 16
    [.mk .stringFragment .member 9 11 [], .mk .escapeSequence .member 11 15 []]

/-- The call. -/
def requiringCall : Node :=
  .mk .callExpression .member 0 17
    [.mk .identifier .callee 0 7 [], .mk .arguments .arguments 7 17 [requiredLiteral]]

/-- Both are looked up under the specifier that the escape stands for. -/
theorem escaped_specifiers_treated_alike :
    let requiringTask : Task := { importingTask with source := requiringSource }
    let lookedUp : Ruling :=
      .lookedUp "l/a" "./m/a" "libs" "l/a" "window[\"libs\"][\"l/a\"]"
    (decide importingTask partlyExternal [] importingStatement).map
          (Outcome.ruling? External.defaultGlobal) = .ok (some lookedUp) ∧
      (decide requiringTask partlyExternal [] requiringCall).map
          (Outcome.ruling? External.defaultGlobal) = .ok (some lookedUp) := by
  have cut : IsCut importingTask.source importedLiteral :=
    ⟨'\'', ['l', '/', '\\', 'x', '6', '1', '\''], by decide +kernel, by decide +kernel⟩
  have cut' : IsCut requiringSource requiredLiteral :=
    ⟨'\'', ['l', '/', '\\', 'x', '6', '1', '\''], by decide +kernel, by decide +kernel⟩
  have requires : callsRequire requiringSource requiringCall = true := by decide +kernel
  have isImport : importingStatement.kind = .importStatement := rfl
  have isCall : requiringCall.kind = .callExpression := rfl
  obtain ⟨imported, required, _, _⟩ :=
    imports_and_calls_alike importingTask requiringSource partlyExternal [] [] isImport rfl rfl
      isCall requires rfl rfl cut cut' (by decide +kernel)
  have ruled : (ruling partlyExternal importingTask.dependencies importingTask.importer
      importingTask.globalObject (importingTask.source.textOf importedLiteral)
      (literalValue importingTask.source importedLiteral)).toOption =
        some (.lookedUp "l/a" "./m/a" "libs" "l/a" "window[\"libs\"][\"l/a\"]") := by
    decide +kernel
  rw [eq_ok_of_toOption ruled] at imported required
  exact ⟨imported, required⟩

end ModuleAlias.Replacement
