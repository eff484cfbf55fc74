/-
Module: ModuleAlias.Proofs.Script.ImportForms
Purpose: Imports apart from how they are written: the parts of a statement, each under one local
  name or a list of items, and the names and properties in them. A node of a syntax tree stands for
  them if its children do, with comments among them; whatever the grammar reads as an import stands
  for such parts.
Imports: ModuleAlias.Proofs.Script.Lexemes, ModuleAlias.Proofs.Script.PatternReaders
Main exports: Script.ImportPart, Script.ImportPart.WellSpelled, Script.IsImport,
  Script.exists_isImport_of_read
-/
import ModuleAlias.Proofs.Script.Lexemes
import ModuleAlias.Proofs.Script.PatternReaders

namespace ModuleAlias.Script

open Reader

/-!
### Imports
-/

/-- The name under which a module offers something, as it is spelled. -/
inductive ImportedName where
  | word (spelling : String)
  | string (literal : String)

/-- An item of named imports: what is imported, and the name to call it by if that is another. A
keyword for types makes no difference. -/
inductive ImportItem where
  | plain (imported : ImportedName)
  | renamed (imported : ImportedName) (name : String)

/-- A part of an import statement: one name, for the default, for all of a module or for a required
module, or a list of items. -/
inductive ImportPart where
  | name (spelling : String)
  | named (items : List ImportItem)

namespace ImportedName

/-- The name as it is spelled. -/
def spelling : ImportedName → String
  | word spelling => spelling
  | string literal => literal

/-- The key of the property that has the name. -/
def key : ImportedName → PropertyKey
  | word spelling => .word spelling
  | string literal => .string literal

/-- The name is spelled as the language wants it. -/
def WellSpelled : ImportedName → Prop
  | word spelling => IsIdentifierName spelling.toList
  | string literal => IsStringLiteral literal.toList

end ImportedName

namespace ImportItem

/-- The local name of an item. -/
def localName : ImportItem → String
  | plain imported => imported.spelling
  | renamed _ name => name

/-- What is imported by an item. -/
def imported : ImportItem → ImportedName
  | plain imported => imported
  | renamed imported _ => imported

/-- What is imported is spelled well, and the local name can name a variable. A string cannot, so
that it needs another name to call it by. -/
def WellSpelled (item : ImportItem) : Prop :=
  item.imported.WellSpelled ∧ IsBindingIdentifier item.localName.toList

end ImportItem

namespace ImportPart

/-- The local names of a part, in the order of the source. -/
def localNames : ImportPart → List String
  | name spelling => [spelling]
  | named items => items.map ImportItem.localName

/-- The named imports of a part: the property that each is taken from, and its local name. -/
def imports : ImportPart → List (PropertyKey × String)
  | name _ => []
  | named items => items.map fun item => (item.imported.key, item.localName)

/-- All names of a part are spelled as the language wants them. -/
def WellSpelled : ImportPart → Prop
  | name spelling => IsBindingIdentifier spelling.toList
  | named items => ∀ item ∈ items, item.WellSpelled

end ImportPart

/-!
### Trees of imports
-/

section
variable (source : Source)

/-- A node stands for the name under which a module offers something. -/
inductive IsImported : Node → ImportedName → Prop
  | word {part : Part} {start stop : Nat} {children : List Node} :
      IsImported (.mk .identifier part start stop children) (.word (source.slice start stop))
  | string {part : Part} {start stop : Nat} {children : List Node} :
      IsImported (.mk .string part start stop children) (.string (source.slice start stop))

/-- A node stands for an item of named imports. -/
inductive IsImportItem : Node → ImportItem → Prop
  | plain {part : Part} {start stop : Nat} {children : List Node} {node : Node}
      {imported : ImportedName} (inner : AmongComments children [node])
      (named : node.part = .name) (offered : IsImported source node imported) :
      IsImportItem (.mk .importSpecifier part start stop children) (.plain imported)
  | renamed {part : Part} {start stop first last : Nat} {children inside : List Node} {node : Node}
      {imported : ImportedName}
      (inner : AmongComments children [node, .mk .identifier .localName first last inside])
      (named : node.part = .name) (offered : IsImported source node imported) :
      IsImportItem (.mk .importSpecifier part start stop children)
        (.renamed imported (source.slice first last))

/-- A node stands for a part of an import. -/
inductive IsImportPart : Node → ImportPart → Prop
  | default {part : Part} {start stop : Nat} {children : List Node} :
      IsImportPart (.mk .identifier part start stop children) (.name (source.slice start stop))
  | whole {part played : Part} {start stop first last : Nat} {children inside : List Node}
      (inner : AmongComments children [.mk .identifier played first last inside]) :
      IsImportPart (.mk .namespaceImport part start stop children)
        (.name (source.slice first last))
  | named {part : Part} {start stop : Nat} {children nodes : List Node} {items : List ImportItem}
      (inner : AmongComments children nodes)
      (each : List.Forall₂ (IsImportItem source) nodes items) :
      IsImportPart (.mk .namedImports part start stop children) (.named items)

/-- Nodes that name a module: a literal, and attributes behind it. -/
def NameModule (nodes : List Node) : Prop :=
  ∀ node ∈ nodes, node.kind = .string ∨ node.kind = .importAttribute

/-- A node stands for an import of parts. An import for its effects alone has none. -/
inductive IsImport : Node → List ImportPart → Prop
  | bare {part : Part} {start stop : Nat} {children others : List Node}
      (inner : AmongComments children others) (rest : NameModule others) :
      IsImport (.mk .importStatement part start stop children) []
  | clause {part played : Part} {start stop first last : Nat}
      {children inside nodes others : List Node} {parts : List ImportPart}
      (inner : AmongComments children (.mk .importClause played first last inside :: others))
      (clause : AmongComments inside nodes)
      (each : List.Forall₂ (IsImportPart source) nodes parts) :
      IsImport (.mk .importStatement part start stop children) parts
  | required {part played role : Part} {start stop first last begin finish : Nat}
      {children inside more others : List Node}
      (inner : AmongComments children
        (.mk .importRequireClause played first last
          (.mk .identifier role begin finish inside :: more) :: others))
      (rest : NameModule others) :
      IsImport (.mk .importStatement part start stop children)
        [.name (source.slice begin finish)]

end

/-!
### Imports that are read
-/

section
variable (source : Source)

theorem IsImported.withPart {source : Source} {node : Node} {imported : ImportedName}
    (offered : IsImported source node imported) (part : Part) :
    IsImported source (node.withPart part) imported := by
  cases offered with
  | word => exact .word
  | string => exact .string

theorem yields_importedName :
    importedName.Yields fun node => ∃ imported, IsImported source node imported := by
  refine yields_after fun lexeme => ?_
  split
  · intro cursor node after read
    obtain ⟨kind, part, start, stop, children⟩ := node
    obtain ⟨rfl, -⟩ := yields_stringLiteral read
    exact ⟨_, .string⟩
  · intro cursor node after read
    obtain ⟨kind, part, start, stop, children⟩ := node
    obtain ⟨rfl, -⟩ := yields_anyWord .identifier read
    exact ⟨_, .word⟩

theorem yields_renamedItem (start : Nat) :
    (renamedItem start).Yields fun node => ∃ item, IsImportItem source node item := by
  refine (yields_importedName source).bind fun named => ?_
  rintro ⟨imported, offered⟩
  refine yields_after fun isRenamed => Yields.ite ?_ ?_
  · refine (yields_anyWord .identifier).bind fun renamed => ?_
    obtain ⟨kind, part, first, last, inside⟩ := renamed
    rintro ⟨rfl, rfl⟩
    intro cursor node after read
    obtain ⟨stop, rfl⟩ := yields_node _ _ _ read
    exact ⟨_, .renamed (.refl _) (named.withPart_part .name) (offered.withPart .name)⟩
  · intro cursor node after read
    obtain ⟨stop, rfl⟩ := yields_node _ _ _ read
    exact ⟨_, .plain (.refl _) (named.withPart_part .name) (offered.withPart .name)⟩

theorem yields_importItem (g : Grammar) :
    (importItem g).Yields fun node => ∃ item, IsImportItem source node item := by
  refine yields_after fun start => ?_
  have item : (do
      let item ← renamedItem start
      require (← atItemEnd)
      return item).Yields fun node => ∃ item, IsImportItem source node item :=
    (yields_renamedItem source start).bind fun item known =>
      yields_after fun _ => yields_after fun _ => yields_pure known
  refine Yields.orElse item (yields_after fun _ => yields_after fun keyword => ?_)
  split
  · exact item
  · exact item
  · exact yields_failure

theorem yields_namedImports (g : Grammar) :
    (namedImports g).Yields fun node => ∃ part, IsImportPart source node part := by
  refine yields_after fun start => yields_after fun _ =>
    ((yields_importItem source g).listUntil _).bind fun nodes each => ?_
  obtain ⟨items, all⟩ := exists_of_each List.Forall₂.nil List.Forall₂.cons each
  intro cursor node after read
  obtain ⟨stop, rfl⟩ := yields_node _ _ _ read
  exact ⟨_, .named (.refl _) all⟩

theorem yields_namespaceImport :
    namespaceImport.Yields fun node => ∃ part, IsImportPart source node part := by
  refine yields_after fun start => yields_after fun _ => yields_after fun _ =>
    (yields_anyWord .identifier).bind fun binder => ?_
  obtain ⟨kind, part, first, last, inside⟩ := binder
  rintro ⟨rfl, rfl⟩
  intro cursor node after read
  obtain ⟨stop, rfl⟩ := yields_node _ _ _ read
  exact ⟨_, .whole (.refl _)⟩

/-- What is imported is one clause with its parts. -/
theorem yields_importClause (g : Grammar) :
    (importClause g).Yields fun node => ∃ start stop nodes parts,
      node = .mk .importClause .member start stop nodes ∧
        List.Forall₂ (IsImportPart source) nodes parts := by
  refine yields_after fun start => yields_after fun next => ?_
  have others : (do
      if ← nextIsMark "*" then namespaceImport else namedImports g).Yields
        fun node => ∃ part, IsImportPart source node part :=
    yields_after fun _ => Yields.ite (yields_namespaceImport source) (yields_namedImports source g)
  split
  · refine (yields_anyWord .identifier).bind fun default => ?_
    obtain ⟨kind, part, first, last, inside⟩ := default
    rintro ⟨rfl, rfl⟩
    have clause : ∀ more parts, List.Forall₂ (IsImportPart source) more parts →
        (node .importClause start (.mk .identifier .member first last inside :: more)).Yields
          fun node => ∃ start stop nodes parts,
            node = .mk .importClause .member start stop nodes ∧
              List.Forall₂ (IsImportPart source) nodes parts := by
      intro more parts each cursor node after read
      obtain ⟨stop, rfl⟩ := yields_node _ _ _ read
      exact ⟨_, _, _, _, rfl, .cons .default each⟩
    refine yields_after fun isMore => Yields.ite (others.bind fun other => ?_) ?_
    · rintro ⟨part, known⟩
      exact clause [other] [part] (.cons known .nil)
    · exact clause [] [] .nil
  · refine others.bind fun only => ?_
    rintro ⟨part, known⟩
    intro cursor node after read
    obtain ⟨stop, rfl⟩ := yields_node _ _ _ read
    exact ⟨_, _, _, _, rfl, .cons known .nil⟩

theorem yields_importAttributes (g : Grammar) :
    (importAttributes g).Yields fun nodes => ∀ node ∈ nodes, node.kind = .importAttribute := by
  refine yields_after fun next => Yields.ite ?_ (yields_pure nofun)
  refine yields_after fun start => yields_after fun _ => yields_after fun value => ?_
  refine (yields_node .importAttribute start [value]).bind fun node => ?_
  rintro ⟨stop, rfl⟩
  exact yields_pure (List.forall_mem_singleton.2 rfl)

theorem yields_requireClause :
    requireClause.Yields fun node => ∃ start stop first last inside more,
      node = .mk .importRequireClause .member start stop
        (.mk .identifier .member first last inside :: more) := by
  refine yields_after fun start => (yields_anyWord .identifier).bind fun binder => ?_
  obtain ⟨kind, part, first, last, inside⟩ := binder
  rintro ⟨rfl, rfl⟩
  refine yields_after fun _ => yields_after fun _ => yields_after fun _ =>
    yields_after fun literal => yields_after fun _ => ?_
  intro cursor node after read
  obtain ⟨stop, rfl⟩ := yields_node _ _ _ read
  exact ⟨_, _, _, _, _, _, rfl⟩

/-- The parts of a declaration make up an import. -/
theorem yields_importParts (g : Grammar) :
    (importParts g).Yields fun nodes => ∀ start stop,
      ∃ parts, IsImport source (.mk .importStatement .member start stop nodes) parts := by
  have direct : (do
      let source ← stringLiteral
      return source.withPart .source :: (← importAttributes g) : Reader (List Node)).Yields
        NameModule := by
    refine yields_stringLiteral.bind fun literal => ?_
    obtain ⟨kind, part, first, last, inside⟩ := literal
    rintro ⟨rfl, rfl⟩
    refine (yields_importAttributes g).bind fun attributes each => yields_pure ?_
    exact List.forall_mem_cons.2 ⟨Or.inl rfl, fun node known => Or.inr (each node known)⟩
  refine Yields.orElse ?_ (Yields.orElse ?_ ?_)
  · intro cursor nodes after read start stop
    exact ⟨[], .bare (.refl _) (direct read)⟩
  · refine yields_after fun _ => yields_requireClause.bind fun clause => ?_
    rintro ⟨begin, finish, first, last, inside, more, rfl⟩
    exact yields_pure fun start stop => ⟨_, .required (.refl _) nofun⟩
  · refine (yields_importClause source g).bind fun clause => ?_
    rintro ⟨begin, finish, nodes, parts, rfl, each⟩
    refine yields_after fun _ => yields_after fun others => yields_pure fun start stop => ?_
    exact ⟨parts, .clause (.refl _) (.refl _) each⟩

/-- Whatever the grammar reads as an import statement stands for an import. -/
theorem exists_isImport_of_read (g : Grammar) :
    (importRule g).Yields fun node =>
      node.kind = .importStatement → ∃ parts, IsImport source node parts := by
  refine yields_after fun start => yields_after fun _ => ?_
  have declaration : ∀ reader : Reader (List Node),
      (reader.Yields fun nodes => ∀ start stop,
        ∃ parts, IsImport source (.mk .importStatement .member start stop nodes) parts) →
      (do
        let parts ← reader
        declarationEnd
        node .importStatement start parts : Reader Node).Yields fun node =>
          node.kind = .importStatement → ∃ parts, IsImport source node parts := by
    intro reader inner
    refine inner.bind fun nodes known => yields_after fun _ => ?_
    intro cursor node after read _
    obtain ⟨stop, rfl⟩ := yields_node _ _ _ read
    exact known start stop
  refine Yields.orElse (declaration _ ?_) (Yields.orElse (declaration _ ?_) ?_)
  · refine yields_after fun _ => yields_after fun keyword => ?_
    split
    · exact yields_importParts source g
    · exact yields_importParts source g
    · exact yields_failure
  · exact yields_importParts source g
  · refine yields_after fun parts => yields_after fun _ => ?_
    intro cursor node after read other
    obtain ⟨stop, rfl⟩ := yields_node _ _ _ read
    cases other

end

end ModuleAlias.Script
