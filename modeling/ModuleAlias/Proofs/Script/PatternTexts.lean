/-
Module: ModuleAlias.Proofs.Script.PatternTexts
Purpose: Binding patterns as they are written in the language. A text is one if the symbols that it
  spells follow the grammar of binding patterns; then it is one pattern only, whatever the number of
  properties and elements, the depth of the patterns inside it, and the literals that are keys.
Imports: ModuleAlias.Proofs.Script.BindingPatterns, ModuleAlias.Proofs.Script.Lexemes
Main exports: Script.WritesPattern, Script.WritesPattern.unique, Script.IsPatternText,
  Script.IsPatternText.unique
-/
import ModuleAlias.Proofs.Script.BindingPatterns
import ModuleAlias.Proofs.Script.Lexemes

namespace ModuleAlias.Script

/-!
### The grammar

Each rule says which symbols are written for a part of a pattern and which ones are left. Default
values and computed keys are expressions; the patterns that are read here are those without any.
-/

/-- The key of a property that a symbol is. -/
def Symbol.key? : Symbol → Option PropertyKey
  | word spelling => some (.word spelling)
  | string literal => some (.string literal)
  | _ => none

mutual

/-- A pattern: a name, or the parts of an object or of a list in their brackets. -/
inductive WritesPattern : List Symbol → BindingPattern → List Symbol → Prop
  | name {spelling : String} {rest : List Symbol} (free : IsBindingIdentifier spelling.toList) :
      WritesPattern (.word spelling :: rest) (.name spelling) rest
  | object {symbols rest : List Symbol} {properties : List BindingProperty}
      (inner : WritesProperties symbols properties rest) :
      WritesPattern (.mark '\x7b' :: symbols) (.object properties) rest
  | array {symbols rest : List Symbol} {elements : List BindingElement}
      (inner : WritesElements symbols elements rest) :
      WritesPattern (.mark '[' :: symbols) (.array elements) rest

/-- A property: the name of a variable, or a pattern behind a key. -/
inductive WritesProperty : List Symbol → BindingProperty → List Symbol → Prop
  | shorthand {spelling : String} {rest : List Symbol}
      (free : IsBindingIdentifier spelling.toList) :
      WritesProperty (.word spelling :: rest) (.shorthand spelling none) rest
  | keyed {symbol : Symbol} {symbols rest : List Symbol} {key : PropertyKey}
      {target : BindingPattern} (named : symbol.key? = some key)
      (value : WritesPattern symbols target rest) :
      WritesProperty (symbol :: .mark ':' :: symbols) (.keyed key target none) rest

/-- The properties of an object, up to its closing brace. What is left over is taken by the last
one, into a name. -/
inductive WritesProperties : List Symbol → List BindingProperty → List Symbol → Prop
  | close {rest : List Symbol} : WritesProperties (.mark '\x7d' :: rest) [] rest
  | property {symbols between rest : List Symbol} {property : BindingProperty}
      {properties : List BindingProperty} (first : WritesProperty symbols property between)
      (more : FollowsProperty between properties rest) :
      WritesProperties symbols (property :: properties) rest
  | leftOver {spelling : String} {rest : List Symbol}
      (free : IsBindingIdentifier spelling.toList) :
      WritesProperties (.dots :: .word spelling :: .mark '\x7d' :: rest)
        [.rest (.name spelling)] rest

/-- What follows a property: the closing brace, or a comma and further properties, if any. -/
inductive FollowsProperty : List Symbol → List BindingProperty → List Symbol → Prop
  | close {rest : List Symbol} : FollowsProperty (.mark '\x7d' :: rest) [] rest
  | comma {symbols rest : List Symbol} {properties : List BindingProperty}
      (more : WritesProperties symbols properties rest) :
      FollowsProperty (.mark ',' :: symbols) properties rest

/-- The elements of a list, up to its closing bracket. Where a comma stands without an element
before it, one is passed over. -/
inductive WritesElements : List Symbol → List BindingElement → List Symbol → Prop
  | close {rest : List Symbol} : WritesElements (.mark ']' :: rest) [] rest
  | hole {symbols rest : List Symbol} {elements : List BindingElement}
      (more : WritesElements symbols elements rest) :
      WritesElements (.mark ',' :: symbols) (.hole :: elements) rest
  | item {symbols between rest : List Symbol} {target : BindingPattern}
      {elements : List BindingElement} (first : WritesPattern symbols target between)
      (more : FollowsElement between elements rest) :
      WritesElements symbols (.item target none :: elements) rest
  | leftOver {symbols rest : List Symbol} {target : BindingPattern}
      (all : WritesPattern symbols target (.mark ']' :: rest)) :
      WritesElements (.dots :: symbols) [.rest target] rest

/-- What follows an element: the closing bracket, or a comma and further elements, if any. -/
inductive FollowsElement : List Symbol → List BindingElement → List Symbol → Prop
  | close {rest : List Symbol} : FollowsElement (.mark ']' :: rest) [] rest
  | comma {symbols rest : List Symbol} {elements : List BindingElement}
      (more : WritesElements symbols elements rest) :
      FollowsElement (.mark ',' :: symbols) elements rest

end

/-- A text is a binding pattern: it spells symbols that are written for the pattern. -/
def IsPatternText (text : String) (pattern : BindingPattern) : Prop :=
  ∃ symbols, Spells text.toList symbols ∧ WritesPattern symbols pattern []

/-!
### One pattern

The next symbol tells which rule applies, but for a property that begins with a word: it has a key
if a colon follows, and no colon follows a whole property.
-/

theorem FollowsProperty.head_ne_colon {symbols rest : List Symbol}
    {properties : List BindingProperty} (follows : FollowsProperty symbols properties rest) :
    symbols.head? ≠ some (.mark ':') := by
  cases follows with
  | close => simp
  | comma => simp

mutual

theorem WritesPattern.unique {symbols rest rest' : List Symbol} {pattern pattern' : BindingPattern}
    (writes : WritesPattern symbols pattern rest) (writes' : WritesPattern symbols pattern' rest') :
    pattern = pattern' ∧ rest = rest' :=
  match writes, writes' with
  | .name _, .name _ => ⟨rfl, rfl⟩
  | .object inner, .object inner' => by
      obtain ⟨rfl, rfl⟩ := inner.unique inner'
      exact ⟨rfl, rfl⟩
  | .array inner, .array inner' => by
      obtain ⟨rfl, rfl⟩ := inner.unique inner'
      exact ⟨rfl, rfl⟩

theorem WritesProperty.unique {symbols rest rest' : List Symbol}
    {property property' : BindingProperty} (writes : WritesProperty symbols property rest)
    (writes' : WritesProperty symbols property' rest') (noKey : rest.head? ≠ some (.mark ':'))
    (noKey' : rest'.head? ≠ some (.mark ':')) : property = property' ∧ rest = rest' := by
  cases writes with
  | shorthand =>
      cases writes' with
      | shorthand => exact ⟨rfl, rfl⟩
      | keyed => exact absurd rfl noKey
  | keyed named value =>
      cases writes' with
      | shorthand => exact absurd rfl noKey'
      | keyed named' value' =>
          cases named.symm.trans named'
          obtain ⟨rfl, rfl⟩ := value.unique value'
          exact ⟨rfl, rfl⟩

theorem WritesProperties.unique {symbols rest rest' : List Symbol}
    {properties properties' : List BindingProperty}
    (writes : WritesProperties symbols properties rest)
    (writes' : WritesProperties symbols properties' rest') :
    properties = properties' ∧ rest = rest' :=
  match writes, writes' with
  | .close, .close => ⟨rfl, rfl⟩
  | .close, .property first _ => nomatch first
  | .property first _, .close => nomatch first
  | .property first more, .property first' more' => by
      obtain ⟨rfl, rfl⟩ := first.unique first' more.head_ne_colon more'.head_ne_colon
      obtain ⟨rfl, rfl⟩ := more.unique more'
      exact ⟨rfl, rfl⟩
  | .property first _, .leftOver _ => nomatch first
  | .leftOver _, .property first _ => nomatch first
  | .leftOver _, .leftOver _ => ⟨rfl, rfl⟩

theorem FollowsProperty.unique {symbols rest rest' : List Symbol}
    {properties properties' : List BindingProperty}
    (follows : FollowsProperty symbols properties rest)
    (follows' : FollowsProperty symbols properties' rest') :
    properties = properties' ∧ rest = rest' :=
  match follows, follows' with
  | .close, .close => ⟨rfl, rfl⟩
  | .comma more, .comma more' => more.unique more'

theorem WritesElements.unique {symbols rest rest' : List Symbol}
    {elements elements' : List BindingElement} (writes : WritesElements symbols elements rest)
    (writes' : WritesElements symbols elements' rest') : elements = elements' ∧ rest = rest' :=
  match writes, writes' with
  | .close, .close => ⟨rfl, rfl⟩
  | .close, .item first _ => nomatch first
  | .hole more, .hole more' => by
      obtain ⟨rfl, rfl⟩ := more.unique more'
      exact ⟨rfl, rfl⟩
  | .hole _, .item first _ => nomatch first
  | .item first _, .close => nomatch first
  | .item first _, .hole _ => nomatch first
  | .item first more, .item first' more' => by
      obtain ⟨rfl, rfl⟩ := first.unique first'
      obtain ⟨rfl, rfl⟩ := more.unique more'
      exact ⟨rfl, rfl⟩
  | .item first _, .leftOver _ => nomatch first
  | .leftOver _, .item first _ => nomatch first
  | .leftOver all, .leftOver all' => by
      obtain ⟨rfl, same⟩ := all.unique all'
      exact ⟨rfl, (List.cons.inj same).2⟩

theorem FollowsElement.unique {symbols rest rest' : List Symbol}
    {elements elements' : List BindingElement} (follows : FollowsElement symbols elements rest)
    (follows' : FollowsElement symbols elements' rest') : elements = elements' ∧ rest = rest' :=
  match follows, follows' with
  | .close, .close => ⟨rfl, rfl⟩
  | .comma more, .comma more' => more.unique more'

end

/-- A text is one binding pattern at most. -/
theorem IsPatternText.unique {text : String} {pattern pattern' : BindingPattern}
    (reads : IsPatternText text pattern) (reads' : IsPatternText text pattern') :
    pattern = pattern' := by
  obtain ⟨symbols, spells, writes⟩ := reads
  obtain ⟨symbols', spells', writes'⟩ := reads'
  obtain rfl := spells.unique spells'
  exact (writes.unique writes').1

end ModuleAlias.Script
