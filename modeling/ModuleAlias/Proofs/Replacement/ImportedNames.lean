/-
Module: ModuleAlias.Proofs.Replacement.ImportedNames
Purpose: What takes the place of an import of an external module binds the names that the import
  binds. Each part of the import gives one pattern, and its text is that pattern and no other; the
  patterns bind the local names in order and take each named import from the property of that name.
  The look-up is declared once for each pattern, or stands alone if there are none. It does not
  stand alone where the import has braces with nothing in them and binds nothing either.
Imports: ModuleAlias.Proofs.Script.ImportForms, ModuleAlias.Proofs.Script.PatternTexts,
  ModuleAlias.Proofs.Replacement.Rulings
Main exports: Replacement.importBound_of_isImport, Replacement.isPatternText_partText,
  Replacement.Declares, Replacement.IsDeclaration, Replacement.BracesAlone,
  Replacement.externalized_import_binds_its_names
-/
import ModuleAlias.Proofs.Script.ImportForms
import ModuleAlias.Proofs.Script.PatternTexts
import ModuleAlias.Proofs.Replacement.Rulings

namespace ModuleAlias.Replacement

open Script

/-!
### Parts of imports as texts
-/

/-- The text of the property that binds an item. -/
def itemText : ImportItem → String
  | .plain imported => imported.spelling
  | .renamed imported name => imported.spelling ++ ": " ++ name

/-- The text of the pattern that binds a part. -/
def partText : ImportPart → String
  | .name spelling => spelling
  | .named items => objectPattern (items.map itemText)

section
variable {source : Source} {node : Node}

theorem textOf_of_isImported {imported : ImportedName} (offered : IsImported source node imported) :
    source.textOf node = imported.spelling := by
  cases offered with
  | word => rfl
  | string => rfl

/-- An item is bound under its local name, by its property. -/
theorem itemBound_of_isImportItem {item : ImportItem} (stands : IsImportItem source node item) :
    itemBound source node = some (item.localName, itemText item) := by
  cases stands with
  | @plain part start stop children inner imported among named offered =>
      have name : (Node.mk .importSpecifier part start stop children).child? .name = some inner :=
        (among.child?_eq .name nofun).trans (by simp [named])
      have localName :
          (Node.mk .importSpecifier part start stop children).child? .localName = none :=
        (among.child?_eq .localName nofun).trans (by simp [named])
      rw [itemBound, name, localName]
      simp only [textOf_of_isImported offered]
      rfl
  | @renamed part start stop first last children inside inner imported among named offered =>
      have name : (Node.mk .importSpecifier part start stop children).child? .name = some inner :=
        (among.child?_eq .name nofun).trans (by simp [named])
      have localName : (Node.mk .importSpecifier part start stop children).child? .localName =
          some (.mk .identifier .localName first last inside) :=
        (among.child?_eq .localName nofun).trans
          ((List.find?_cons_of_neg (by simp [named])).trans (List.find?_cons_of_pos rfl))
      rw [itemBound, name, localName]
      simp only [textOf_of_isImported offered]
      rfl

theorem kind_of_isImportItem {item : ImportItem} (stands : IsImportItem source node item) :
    node.kind = .importSpecifier := by
  cases stands with
  | plain => rfl
  | renamed => rfl

/-- The items of a list are all bound, each under its local name. -/
theorem filterMap_itemBound {nodes : List Node} {items : List ImportItem}
    (each : List.Forall₂ (IsImportItem source) nodes items) :
    (nodes.filter fun item => item.kind == .importSpecifier).filterMap (itemBound source) =
      items.map fun item => (item.localName, itemText item) := by
  induction each with
  | nil => rfl
  | @cons node item nodes items first _ ih =>
      have specifies : (node.kind == .importSpecifier) = true :=
        beq_iff_eq.2 (kind_of_isImportItem first)
      rw [List.filter_cons, if_pos specifies, List.filterMap_cons, itemBound_of_isImportItem first,
        List.map_cons, ih]

/-- A part of an import is bound by one pattern. -/
theorem clausePartBound_of_isImportPart {part : ImportPart}
    (stands : IsImportPart source node part) :
    clausePartBound source node = { names := part.localNames, patterns := [partText part] } := by
  cases stands with
  | default => rfl
  | @whole part played start stop first last children inside among =>
      have binder : (Node.mk .namespaceImport part start stop children).childOfKind? .identifier =
          some (.mk .identifier played first last inside) :=
        (among.childOfKind?_eq .identifier nofun).trans (by simp [Node.kind])
      rw [clausePartBound]
      simp only [Node.kind, binder]
      rfl
  | @named part start stop children nodes items among each =>
      have specifiers : (children.filter fun item => item.kind == .importSpecifier) =
          nodes.filter fun item => item.kind == .importSpecifier := by
        refine among.filter_eq ?_
        rintro ⟨_, part, start, stop, children⟩ ⟨rfl, -, -⟩
        rfl
      have bound := (congrArg (List.filterMap (itemBound source)) specifiers).trans
        (filterMap_itemBound each)
      change ({ names := _, patterns := _ } : Bound) = _
      rw [Node.children, bound, List.map_map, List.map_map]
      rfl

/-- Parts that are bound one after another. -/
theorem foldl_append_eq (bounds : List Bound) (first : Bound) :
    bounds.foldl Bound.append first =
      { names := first.names ++ bounds.flatMap Bound.names
        patterns := first.patterns ++ bounds.flatMap Bound.patterns } := by
  induction bounds generalizing first with
  | nil => simp
  | cons bound bounds ih => simp [ih, Bound.append]

theorem flatMap_clausePartBound {nodes : List Node} {parts : List ImportPart}
    (each : List.Forall₂ (IsImportPart source) nodes parts) :
    nodes.flatMap (fun node => (clausePartBound source node).names) =
        parts.flatMap ImportPart.localNames ∧
      nodes.flatMap (fun node => (clausePartBound source node).patterns) = parts.map partText := by
  induction each with
  | nil => exact ⟨rfl, rfl⟩
  | cons first _ ih =>
      have bound := clausePartBound_of_isImportPart first
      simp only [List.flatMap_cons, List.map_cons, bound, ih, List.singleton_append, and_self]

/-- Nodes that name a module are no clause. -/
theorem find?_of_nameModule {nodes : List Node} (names : NameModule nodes) (kind : Kind)
    (notString : kind ≠ .string) (notAttribute : kind ≠ .importAttribute) :
    nodes.find? (fun node => node.kind == kind) = none := by
  rw [List.find?_eq_none]
  intro node known same
  rw [beq_iff_eq] at same
  rcases names node known with isString | isAttribute
  · exact notString (same.symm.trans isString)
  · exact notAttribute (same.symm.trans isAttribute)

/-- What an import binds are the local names of its parts, with one pattern for each part. -/
theorem importBound_of_isImport {parts : List ImportPart} (stands : IsImport source node parts) :
    importBound source node =
      { names := parts.flatMap ImportPart.localNames, patterns := parts.map partText } := by
  cases stands with
  | @bare part start stop children others among rest =>
      have noClause : (Node.mk .importStatement part start stop children).childOfKind?
          .importClause = none :=
        (among.childOfKind?_eq .importClause nofun).trans (find?_of_nameModule rest _ nofun nofun)
      have notRequired : (Node.mk .importStatement part start stop children).childOfKind?
          .importRequireClause = none :=
        (among.childOfKind?_eq .importRequireClause nofun).trans
          (find?_of_nameModule rest _ nofun nofun)
      rw [importBound, noClause]
      simp only [notRequired]
      rfl
  | @clause part played start stop first last children inside nodes others parts among clause
      each =>
      have found : (Node.mk .importStatement part start stop children).childOfKind? .importClause =
          some (.mk .importClause played first last inside) :=
        (among.childOfKind?_eq .importClause nofun).trans (List.find?_cons_of_pos rfl)
      have nothing : ∀ comment, IsComment comment → clausePartBound source comment = .none := by
        rintro ⟨_, part, start, stop, children⟩ ⟨rfl, -, -⟩
        rfl
      have names := clause.flatMap_eq fun comment isComment =>
        congrArg Bound.names (nothing comment isComment)
      have patterns := clause.flatMap_eq fun comment isComment =>
        congrArg Bound.patterns (nothing comment isComment)
      obtain ⟨localNames, texts⟩ := flatMap_clausePartBound each
      rw [importBound, found]
      simp only [Node.children]
      rw [foldl_append_eq, List.flatMap_map, List.flatMap_map, names, patterns, localNames, texts]
      rfl
  | @required part played role start stop first last begin finish children inside more others among
      rest =>
      have noClause : (Node.mk .importStatement part start stop children).childOfKind?
          .importClause = none :=
        (among.childOfKind?_eq .importClause nofun).trans
          ((List.find?_cons_of_neg Bool.false_ne_true).trans
            (find?_of_nameModule rest _ nofun nofun))
      have found : (Node.mk .importStatement part start stop children).childOfKind?
          .importRequireClause = some (.mk .importRequireClause played first last
            (.mk .identifier role begin finish inside :: more)) :=
        (among.childOfKind?_eq .importRequireClause nofun).trans (List.find?_cons_of_pos rfl)
      rw [importBound, noClause]
      simp only [found]
      rfl

end

/-!
### Parts of imports as patterns
-/

/-- The property that takes an item into its local name. -/
def itemProperty : ImportItem → BindingProperty
  | .plain imported => .shorthand imported.spelling none
  | .renamed imported name => .keyed imported.key (.name name) none

/-- The pattern that binds a part. -/
def partPattern : ImportPart → BindingPattern
  | .name spelling => .name spelling
  | .named items => .object (items.map itemProperty)

theorem boundNames_partPattern (part : ImportPart) :
    (partPattern part).boundNames = part.localNames := by
  cases part with
  | name spelling => rw [partPattern, BindingPattern.boundNames, ImportPart.localNames]
  | named items =>
      rw [partPattern, BindingPattern.boundNames, BindingProperty.allBoundNames_eq_flatMap,
        ImportPart.localNames]
      induction items with
      | nil => rfl
      | cons item items ih =>
          have one : (itemProperty item).boundNames = [item.localName] := by
            cases item with
            | plain imported => rw [itemProperty, BindingProperty.boundNames]; rfl
            | renamed imported name =>
                rw [itemProperty, BindingProperty.boundNames, BindingPattern.boundNames]
                rfl
          rw [List.map_cons, List.flatMap_cons, one, ih, List.map_cons, List.singleton_append]

/-- A string cannot name a variable. -/
theorem not_isBindingIdentifier_of_isStringLiteral {literal : List Char}
    (valid : IsStringLiteral literal) : ¬ IsBindingIdentifier literal := by
  rintro ⟨⟨_, _, tail⟩, _⟩
  obtain ⟨quote, inner, pieces, units, rfl, isQuote, value⟩ := valid
  have apart := tail.head
  rcases isQuote with rfl | rfl
  · exact apart (by decide)
  · exact apart (by decide)

/-- An item without another name is imported under a word. -/
theorem exists_word_of_plain {imported : ImportedName}
    (spelled : (ImportItem.plain imported).WellSpelled) :
    ∃ spelling, imported = .word spelling ∧ IsBindingIdentifier spelling.toList := by
  obtain ⟨offered, free⟩ := spelled
  cases imported with
  | word spelling => exact ⟨spelling, rfl, free⟩
  | string literal => exact absurd free (not_isBindingIdentifier_of_isStringLiteral offered)

/-- Each named import is taken from the property under which it is offered. -/
theorem takes_partPattern {part : ImportPart} (spelled : part.WellSpelled) :
    (partPattern part).takes = part.imports := by
  cases part with
  | name spelling => rfl
  | named items =>
      rw [partPattern, BindingPattern.takes, ImportPart.imports]
      induction items with
      | nil => rfl
      | cons item items ih =>
          obtain ⟨first, others⟩ := List.forall_mem_cons.1 spelled
          have one : (itemProperty item).takes = [(item.imported.key, item.localName)] := by
            cases item with
            | plain imported =>
                obtain ⟨spelling, rfl, _⟩ := exists_word_of_plain first
                rfl
            | renamed imported name => rfl
          rw [List.map_cons, List.flatMap_cons, one, ih others, List.map_cons,
            List.singleton_append]

/-!
### Reading the patterns back
-/

/-- The symbol that an imported name is. -/
def importedSymbol : ImportedName → Symbol
  | .word spelling => .word spelling
  | .string literal => .string literal

/-- The symbols of the property that binds an item. -/
def itemSymbols : ImportItem → List Symbol
  | .plain imported => [importedSymbol imported]
  | .renamed imported name => [importedSymbol imported, .mark ':', .word name]

section
variable {item : ImportItem} {items : List ImportItem}

theorem spells_imported {imported : ImportedName} {rest : List Char} {symbols : List Symbol}
    (spelled : imported.WellSpelled) (ends : EndsWord rest) (more : Spells rest symbols) :
    Spells (imported.spelling.toList ++ rest) (importedSymbol imported :: symbols) := by
  cases imported with
  | word spelling => exact .word spelled ends more
  | string literal => exact .string spelled more

/-- The text of an item spells its symbols, before anything that ends a word. -/
theorem spells_itemText {rest : List Char} {symbols : List Symbol} (spelled : item.WellSpelled)
    (ends : EndsWord rest) (more : Spells rest symbols) :
    Spells ((itemText item).toList ++ rest) (itemSymbols item ++ symbols) := by
  obtain ⟨offered, free⟩ := spelled
  cases item with
  | plain imported => exact spells_imported offered ends more
  | renamed imported name =>
      have colon := endsWord_cons (c := ':') rfl (by decide) (' ' :: (name.toList ++ rest))
      have whole : (itemText (.renamed imported name)).toList ++ rest =
          imported.spelling.toList ++ ':' :: ' ' :: (name.toList ++ rest) := by
        rw [itemText, String.toList_append, String.toList_append, List.append_assoc,
          List.append_assoc]
        rfl
      rw [whole]
      exact spells_imported offered colon
        (.mark (by decide) (.space (.word free.name ends more)))

/-- The symbols of an item are written for its property. -/
theorem writesProperty_itemSymbols (spelled : item.WellSpelled) (rest : List Symbol) :
    WritesProperty (itemSymbols item ++ rest) (itemProperty item) rest := by
  cases item with
  | plain imported =>
      obtain ⟨spelling, rfl, free⟩ := exists_word_of_plain spelled
      exact .shorthand free
  | renamed imported name =>
      have named : (importedSymbol imported).key? = some imported.key := by
        cases imported with
        | word spelling => rfl
        | string literal => rfl
      exact .keyed named (.name spelled.2)

/-- What stands behind the first item of an object: each of the others behind a comma, and the
closing brace. -/
def behindItem (items : List ImportItem) : List Char :=
  items.flatMap (fun item => ',' :: ' ' :: (itemText item).toList) ++ [' ', '\x7d']

/-- The symbols behind the first item of an object. -/
def symbolsBehindItem (items : List ImportItem) : List Symbol :=
  items.flatMap (fun item => .mark ',' :: itemSymbols item) ++ [.mark '\x7d']

theorem behindItem_cons : behindItem (item :: items) =
    ',' :: ' ' :: ((itemText item).toList ++ behindItem items) := by
  rw [behindItem, List.flatMap_cons, List.append_assoc]
  rfl

theorem symbolsBehindItem_cons : symbolsBehindItem (item :: items) =
    .mark ',' :: (itemSymbols item ++ symbolsBehindItem items) := by
  rw [symbolsBehindItem, List.flatMap_cons, List.append_assoc]
  rfl

theorem endsWord_behindItem (items : List ImportItem) : EndsWord (behindItem items) := by
  cases items with
  | nil => exact endsWord_cons rfl (by decide) _
  | cons item items =>
      rw [behindItem_cons]
      exact endsWord_cons rfl (by decide) _

theorem spells_behindItem (spelled : ∀ item ∈ items, item.WellSpelled) :
    Spells (behindItem items) (symbolsBehindItem items) := by
  induction items with
  | nil => exact .space (.mark (by decide) .done)
  | cons item items ih =>
      obtain ⟨first, others⟩ := List.forall_mem_cons.1 spelled
      rw [behindItem_cons, symbolsBehindItem_cons]
      exact .mark (by decide)
        (.space (spells_itemText first (endsWord_behindItem items) (ih others)))

theorem followsProperty_symbolsBehindItem (spelled : ∀ item ∈ items, item.WellSpelled) :
    FollowsProperty (symbolsBehindItem items) (items.map itemProperty) [] := by
  induction items with
  | nil => exact .close
  | cons item items ih =>
      obtain ⟨first, others⟩ := List.forall_mem_cons.1 spelled
      rw [symbolsBehindItem_cons, List.map_cons]
      exact .comma (.property (writesProperty_itemSymbols first _) (ih others))

end

/-- A separator between items stands before each item but the first. -/
theorem flatten_intersperse {α : Type} (separator first : List α) (more : List (List α)) :
    ((first :: more).intersperse separator).flatten =
      first ++ more.flatMap fun item => separator ++ item := by
  induction more generalizing first with
  | nil => simp
  | cons next more ih =>
      rw [List.intersperse_cons_cons, List.flatten_cons, List.flatten_cons, ih, List.flatMap_cons,
        List.append_assoc]

/-- The text of an object, the first item and what stands behind it. -/
theorem toList_partText (item : ImportItem) (items : List ImportItem) :
    (partText (.named (item :: items))).toList =
      '\x7b' :: ' ' :: ((itemText item).toList ++ behindItem items) := by
  rw [partText, List.map_cons, objectPattern, List.isEmpty_cons, if_neg Bool.false_ne_true,
    String.toList_append, String.toList_append, String.toList_intercalate, List.map_cons,
    List.intercalate, flatten_intersperse, List.map_map, List.flatMap_map, List.append_assoc,
    List.append_assoc]
  rfl

/-- The text of a part is a pattern, and the pattern is that of the part. -/
theorem isPatternText_partText {part : ImportPart} (spelled : part.WellSpelled) :
    IsPatternText (partText part) (partPattern part) := by
  cases part with
  | name spelling =>
      have spells := Spells.word spelled.name (nofun : EndsWord []) .done
      rw [List.append_nil] at spells
      exact ⟨_, spells, .name spelled⟩
  | named items =>
      cases items with
      | nil => exact ⟨_, .mark (by decide) (.mark (by decide) .done), .object .close⟩
      | cons item items =>
          obtain ⟨first, others⟩ := List.forall_mem_cons.1 spelled
          refine ⟨.mark '\x7b' :: (itemSymbols item ++ symbolsBehindItem items), ?_, ?_⟩
          · rw [toList_partText]
            exact .mark (by decide)
              (.space (spells_itemText first (endsWord_behindItem items) (spells_behindItem others)))
          · exact .object (.property (writesProperty_itemSymbols first _)
              (followsProperty_symbolsBehindItem others))

/-- The texts of the parts are patterns one by one. -/
theorem forall₂_isPatternText {parts : List ImportPart}
    (spelled : ∀ part ∈ parts, part.WellSpelled) :
    List.Forall₂ IsPatternText (parts.map partText) (parts.map partPattern) := by
  rw [List.forall₂_map_left_iff, List.forall₂_map_right_iff, List.forall₂_same]
  exact fun part known => isPatternText_partText (spelled part known)

/-!
### Declarations
-/

/-- A pattern that is initialized with an expression. -/
def declarator (expression pattern : Text) : Text :=
  pattern ++ Text.ofString " = " ++ expression

/-- An expression as a statement. -/
def bareStatement (expression : Text) : Text := expression ++ Text.ofString ";"

/-- A text declares patterns, each once, and initializes all of them with one expression. -/
inductive Declares (expression : Text) : List Text → Text → Prop
  | each (first : Text) (more : List Text) :
      Declares expression (first :: more)
        (Text.ofString "var " ++ declarator expression first ++
          more.flatMap (fun pattern => Text.ofString ", " ++ declarator expression pattern) ++
          Text.ofString ";")

/-- What should take the place of an import that binds names by patterns: a declaration of the
patterns, or the expression as a statement if there are no names. -/
inductive IsDeclaration (expression : Text) : List Text → List Text → Text → Prop
  | bare {patterns : List Text} : IsDeclaration expression [] patterns (bareStatement expression)
  | declares {name : Text} {names patterns : List Text} {text : Text}
      (each : Declares expression patterns text) :
      IsDeclaration expression (name :: names) patterns text

section
variable {expression text : Text} {patterns : List Text}

/-- A declaration is more than the expression. -/
theorem Declares.ne_bareStatement (declares : Declares expression patterns text) :
    text ≠ bareStatement expression := by
  cases declares with
  | each first more =>
      intro same
      have lengths := congrArg List.length same
      have keyword : (Text.ofString "var ").length = 4 := rfl
      simp only [bareStatement, declarator, List.length_append] at lengths
      omega

theorem isDeclaration_nil_iff :
    IsDeclaration expression [] patterns text ↔ text = bareStatement expression := by
  constructor
  · intro is
    cases is
    rfl
  · rintro rfl
    exact .bare

theorem isDeclaration_iff_of_declares (declares : Declares expression patterns text)
    (names : List Text) : IsDeclaration expression names patterns text ↔ names ≠ [] := by
  constructor
  · rintro is rfl
    exact declares.ne_bareStatement (isDeclaration_nil_iff.1 is)
  · intro some
    obtain ⟨name, names, rfl⟩ := List.exists_cons_of_ne_nil some
    exact .declares declares

end

/-- A look-up is rendered as a statement if there are no patterns. -/
theorem declaration_of_nil {binding : External.Binding} (none : binding.patterns = [])
    (globalObject : Text) :
    binding.declaration globalObject = bareStatement (binding.expression globalObject) := by
  rw [External.Binding.declaration, none]
  rfl

/-- A look-up is rendered as a declaration of its patterns if there are any. -/
theorem declares_declaration {binding : External.Binding} (some : binding.patterns ≠ [])
    (globalObject : Text) :
    Declares (binding.expression globalObject) binding.patterns
      (binding.declaration globalObject) := by
  obtain ⟨first, more, patterns⟩ := List.exists_cons_of_ne_nil some
  have keyword : Text.ofString "var" ++ Text.ofChars [' '] = Text.ofString "var " := rfl
  rw [External.Binding.declaration, patterns]
  simp only [List.map_cons, flatten_intersperse, List.flatMap_map]
  rw [keyword, ← List.append_assoc (Text.ofString "var ")]
  exact .each first more

/-- An import has parts, and all of them are braces with nothing in them. -/
def BracesAlone (parts : List ImportPart) : Prop :=
  parts ≠ [] ∧ ∀ part ∈ parts, part = .named []

theorem localNames_eq_nil_iff {part : ImportPart} : part.localNames = [] ↔ part = .named [] := by
  cases part with
  | name spelling => simp [ImportPart.localNames]
  | named items => simp [ImportPart.localNames]

/-- A look-up that binds the parts of an import is rendered as it should be for its names, except
where nothing is bound by braces with nothing in them. -/
theorem isDeclaration_declaration_iff {binding : External.Binding} {parts : List ImportPart}
    (names : binding.names = (parts.flatMap ImportPart.localNames).map Text.ofString)
    (patterns : binding.patterns = (parts.map partText).map Text.ofString) (globalObject : Text) :
    IsDeclaration (binding.expression globalObject) binding.names binding.patterns
        (binding.declaration globalObject) ↔ ¬ BracesAlone parts := by
  cases parts with
  | nil =>
      have none : binding.names = [] := names
      rw [declaration_of_nil patterns, none]
      exact ⟨fun _ alone => alone.1 rfl, fun _ => .bare⟩
  | cons part parts =>
      have some : binding.patterns ≠ [] := by
        rw [patterns]
        exact List.cons_ne_nil _ _
      rw [isDeclaration_iff_of_declares (declares_declaration some _), names]
      simp [BracesAlone, localNames_eq_nil_iff]

/-- An import of an external module is replaced by the rendered look-up of the module, with its
names and patterns. -/
theorem externalized_eq {task : Task} {configuration : Configuration} {around : List Node}
    {statement : Node} {outcome : Outcome} {replacement : Replacement} {binding : External.Binding}
    (isImport : statement.kind = .importStatement)
    (decided : decide task configuration around statement = .ok outcome)
    (replaced : outcome.replacement? = some replacement)
    (binds : replacement.binding = some binding) :
    replacement.text = binding.declaration task.globalObject ∧
      binding.names = (importBound task.source statement).names.map Text.ofString ∧
      binding.patterns = (importBound task.source statement).patterns.map Text.ofString := by
  have form : formOf task around statement = importForm task statement := if_pos isImport
  have text : replacement.text = binding.declaration task.globalObject := by
    rw [text_of_decide decided replaced binds, form]
    rfl
  obtain ⟨specifier, found, target, rfl⟩ :=
    exists_externalReplacement_of_decide decided replaced binds
  rw [form] at binds
  cases binds
  exact ⟨text, rfl, rfl⟩

/-- Whatever is read as an import statement stands for parts that it imports. What it binds are the
local names of these parts in order, and each part gives one pattern. Where the names in it are
spelled as the language wants them, the texts are patterns, and no others: they bind the same names
in the same order and take each named import from the property under which it is offered. What
replaces an import of an external module declares each pattern once with the look-up of the module,
or is the look-up alone if the import has no parts. This is as it should be for the names that are
bound, except where the import has braces with nothing in them: it binds no name, and a pattern
without names is declared. -/
theorem externalized_import_binds_its_names (source : Source) (statement : Node) :
    (∀ g cursor after, importRule g cursor = some (statement, after) →
      statement.kind = .importStatement → ∃ parts, IsImport source statement parts) ∧
    ∀ parts, IsImport source statement parts →
      (importBound source statement).names = parts.flatMap ImportPart.localNames ∧
      (importBound source statement).patterns.length = parts.length ∧
      ((∀ part ∈ parts, part.WellSpelled) → ∃ patterns,
        List.Forall₂ IsPatternText (importBound source statement).patterns patterns ∧
        (∀ others, List.Forall₂ IsPatternText (importBound source statement).patterns others →
          others = patterns) ∧
        patterns.flatMap BindingPattern.boundNames = parts.flatMap ImportPart.localNames ∧
        patterns.flatMap BindingPattern.takes = parts.flatMap ImportPart.imports) ∧
      ∀ (task : Task) configuration around outcome replacement binding, task.source = source →
        decide task configuration around statement = .ok outcome →
        outcome.replacement? = some replacement → replacement.binding = some binding →
          let expression := binding.expression task.globalObject
          binding.names = (importBound source statement).names.map Text.ofString ∧
          binding.patterns = (importBound source statement).patterns.map Text.ofString ∧
          (parts = [] → replacement.text = bareStatement expression) ∧
          (parts ≠ [] → Declares expression binding.patterns replacement.text) ∧
          (IsDeclaration expression binding.names binding.patterns replacement.text ↔
            ¬ BracesAlone parts) := by
  constructor
  · intro g cursor after read
    exact exists_isImport_of_read source g read
  · intro parts stands
    have bound := importBound_of_isImport stands
    rw [bound]
    refine ⟨rfl, List.length_map .., fun spelled => ?_, ?_⟩
    · have texts := forall₂_isPatternText spelled
      have unique : Relator.RightUnique IsPatternText := fun _ _ _ reads reads' =>
        reads.unique reads'
      refine ⟨parts.map partPattern, texts, fun others reads => unique.forall₂ reads texts, ?_, ?_⟩
      · rw [List.flatMap_map]
        exact List.flatMap_congr fun part _ => boundNames_partPattern part
      · rw [List.flatMap_map]
        exact List.flatMap_congr fun part known => takes_partPattern (spelled part known)
    · rintro task configuration around outcome replacement binding rfl decided replaced binds
        expression
      have isImport : statement.kind = .importStatement := by
        cases stands with
        | bare => rfl
        | clause => rfl
        | required => rfl
      obtain ⟨text, names, patterns⟩ := externalized_eq isImport decided replaced binds
      rw [bound] at names patterns
      rw [text]
      refine ⟨names, patterns, ?_, ?_, isDeclaration_declaration_iff names patterns _⟩
      · rintro rfl
        exact declaration_of_nil patterns _
      · intro some
        exact declares_declaration (by rw [patterns]; simpa using some) _

/-!
### An import with a default, renamed items and a comment
-/

/-- A file with one import, of a module that a configuration declares external. -/
def mixedTask : Task where
  source := .ofString "import a, \x7b b, 'x,y: z' as c, /* v */ default as d \x7d from 'p'"
  importer := Alias.Importer.ofFile "/p" "/p/a.js" none
  dependencies := Dependencies.none
  globalObject := External.defaultGlobal

/-- The items of the import, with a comment among them. -/
def mixedItems : List Node :=
  [.mk .importSpecifier .member 12 13 [.mk .identifier .name 12 13 []],
    .mk .importSpecifier .member 15 28
      [.mk .string .name 15 23 [.mk .stringFragment .member 16 22 []],
        .mk .identifier .localName 27 28 []],
    .mk .comment .member 30 37 [],
    .mk .importSpecifier .member 38 50
      [.mk .identifier .name 38 45 [], .mk .identifier .localName 49 50 []]]

/-- The import. -/
def mixedImport : Node :=
  .mk .importStatement .member 0 61
    [.mk .importClause .member 7 52
      [.mk .identifier .member 7 8 [], .mk .namedImports .member 10 52 mixedItems],
      .mk .string .source 58 61 [.mk .stringFragment .member 59 60 []]]

/-- The configuration. -/
def externalPackage : Configuration where
  aliases := Alias.Table.ofMembers [("p", .text "p")]
  externals := [("p", { space := "libs", key := none })]
  path := none

/-- What the import stands for. -/
def mixedParts : List ImportPart :=
  [.name "a",
    .named [.plain (.word "b"), .renamed (.string "'x,y: z'") "c", .renamed (.word "default") "d"]]

theorem isImport_mixedImport : IsImport mixedTask.source mixedImport mixedParts := by
  have slices : mixedTask.source.slice 7 8 = "a" ∧ mixedTask.source.slice 12 13 = "b" ∧
      mixedTask.source.slice 15 23 = "'x,y: z'" ∧ mixedTask.source.slice 27 28 = "c" ∧
      mixedTask.source.slice 38 45 = "default" ∧ mixedTask.source.slice 49 50 = "d" := by
    decide +kernel
  obtain ⟨a, b, key, c, default, d⟩ := slices
  rw [mixedParts, ← a, ← b, ← key, ← c, ← default, ← d]
  exact .clause (.refl _) (.refl _)
    (.cons .default (.cons
      (.named (.item (.item (.comment ⟨rfl, rfl, rfl⟩ (.item .nil))))
        (.cons (.plain (.refl _) rfl .word)
          (.cons (.renamed (.refl _) rfl .string)
            (.cons (.renamed (.refl _) rfl .word) .nil))))
      .nil))

theorem wellSpelled_mixedParts : ∀ part ∈ mixedParts, part.WellSpelled := by
  have free : ∀ word ∈ ["a", "b", "c", "d"], IsBindingIdentifier word.toList := by
    intro word known
    simp only [List.mem_cons, List.not_mem_nil, or_false] at known
    rcases known with rfl | rfl | rfl | rfl
    all_goals exact ⟨isIdentifierName_of_isWordChar (by decide) (by decide), by decide⟩
  have offered : IsIdentifierName "default".toList :=
    isIdentifierName_of_isWordChar (by decide) (by decide)
  have plain : ∀ c ∈ "x,y: z".toList, Literal.StandsBetween '\'' c := by
    have all : ("x,y: z".toList.all fun c =>
        c != '\'' && c != '\\' && c != '\n' && c != '\r') = true := by decide
    intro c known
    simpa [Literal.StandsBetween, and_assoc] using List.all_eq_true.1 all c known
  have literal : IsStringLiteral "'x,y: z'".toList :=
    isStringLiteral_of_standsBetween (Or.inl rfl) plain
  have b : (ImportItem.plain (.word "b")).WellSpelled :=
    ⟨(free "b" (by simp)).name, free "b" (by simp)⟩
  have c : (ImportItem.renamed (.string "'x,y: z'") "c").WellSpelled :=
    ⟨literal, free "c" (by simp)⟩
  have d : (ImportItem.renamed (.word "default") "d").WellSpelled :=
    ⟨offered, free "d" (by simp)⟩
  have items : (ImportPart.named
      [.plain (.word "b"), .renamed (.string "'x,y: z'") "c",
        .renamed (.word "default") "d"]).WellSpelled :=
    List.forall_mem_cons.2 ⟨b, List.forall_mem_cons.2 ⟨c, List.forall_mem_singleton.2 d⟩⟩
  exact List.forall_mem_cons.2 ⟨free "a" (by simp), List.forall_mem_singleton.2 items⟩

/-- The import binds its four names, each item from the property under which it is offered, and is
replaced by a declaration. -/
theorem mixedImport_binds_its_names :
    (importBound mixedTask.source mixedImport).names = ["a", "b", "c", "d"] ∧
      (∃ patterns,
        List.Forall₂ IsPatternText (importBound mixedTask.source mixedImport).patterns patterns ∧
        patterns.flatMap BindingPattern.takes =
          [(.word "b", "b"), (.string "'x,y: z'", "c"), (.word "default", "d")]) ∧
      ∃ outcome replacement binding,
        decide mixedTask externalPackage [] mixedImport = .ok outcome ∧
          outcome.replacement? = some replacement ∧ replacement.binding = some binding ∧
          IsDeclaration (binding.expression mixedTask.globalObject) binding.names binding.patterns
            replacement.text := by
  have law := (externalized_import_binds_its_names mixedTask.source mixedImport).2
    mixedParts isImport_mixedImport
  obtain ⟨names, _, readable, declares⟩ := law
  obtain ⟨patterns, read, _, _, takes⟩ := readable wellSpelled_mixedParts
  have external : (((decide mixedTask externalPackage [] mixedImport).toOption.bind
      Outcome.replacement?).bind Replacement.binding).isSome = true := by
    decide +kernel
  obtain ⟨binding, found⟩ := Option.isSome_iff_exists.1 external
  obtain ⟨replacement, replaces, binds⟩ := Option.bind_eq_some_iff.1 found
  obtain ⟨outcome, came, replaced⟩ := Option.bind_eq_some_iff.1 replaces
  have decided := eq_ok_of_toOption came
  have declared := (declares mixedTask externalPackage [] outcome replacement binding rfl decided
    replaced binds).2.2.2.2
  have named : ¬ BracesAlone mixedParts := fun alone =>
    absurd (alone.2 (.name "a") (List.mem_cons_self ..)) nofun
  exact ⟨names, ⟨patterns, read, takes⟩, outcome, replacement, binding, decided, replaced, binds,
    declared.2 named⟩

/-!
### An import with nothing in its braces
-/

/-- A file with one import, which has braces with nothing in them. -/
def emptyTask : Task := { mixedTask with source := .ofString "import \x7b\x7d from 'p'" }

/-- The import. -/
def emptyImport : Node :=
  .mk .importStatement .member 0 18
    [.mk .importClause .member 7 9 [.mk .namedImports .member 7 9 []],
      .mk .string .source 15 18 [.mk .stringFragment .member 16 17 []]]

theorem isImport_emptyImport : IsImport emptyTask.source emptyImport [.named []] :=
  .clause (.refl _) (.refl _) (.cons (.named (.refl _) .nil) .nil)

/-- The import binds no name, but is replaced by a declaration of a pattern without names, and not
by the look-up alone. -/
theorem emptyImport_is_declared :
    IsImport emptyTask.source emptyImport [.named []] ∧
      ∃ outcome replacement binding,
        decide emptyTask externalPackage [] emptyImport = .ok outcome ∧
          outcome.replacement? = some replacement ∧ replacement.binding = some binding ∧
          binding.names = [] ∧ binding.patterns = ["\x7b\x7d"] ∧
          replacement.text = "var \x7b\x7d = window[\"libs\"][\"p\"];" ∧
          ¬ IsDeclaration (binding.expression emptyTask.globalObject) binding.names binding.patterns
            replacement.text := by
  let binding : External.Binding :=
    { space := "libs", key := "p", names := [], patterns := ["\x7b\x7d"] }
  let written : Text := "var \x7b\x7d = window[\"libs\"][\"p\"];"
  have found : ((decide emptyTask externalPackage [] emptyImport).toOption.bind
      Outcome.replacement?).map (fun replacement => (replacement.text, replacement.binding)) =
        some (written, some binding) := by
    decide +kernel
  obtain ⟨replacement, replaces, same⟩ := Option.map_eq_some_iff.1 found
  obtain ⟨text, binds⟩ := Prod.mk.inj same
  obtain ⟨outcome, came, replaced⟩ := Option.bind_eq_some_iff.1 replaces
  refine ⟨isImport_emptyImport, outcome, replacement, binding, eq_ok_of_toOption came, replaced,
    binds, rfl, rfl, text, ?_⟩
  rw [isDeclaration_nil_iff, text]
  decide +kernel

end ModuleAlias.Replacement
