/-
Module: ModuleAlias.Proofs.Replacement.Encoding
Purpose: Which replacements can be written in UTF-8. Only a half of a surrogate pair has no bytes.
  Quotes, escapes and bound names hold none, so a replaced specifier can be written exactly if what
  it is resolved to can, and the look-up of an external module exactly if the name of the global
  object can. Edits can be made exactly if the text of every one can be written. No replacement is
  empty, so neither is what it is put into.
Imports: ModuleAlias.Proofs.Replacement.NamedModules, ModuleAlias.Proofs.Replacement.Stitching
Main exports: Text.Encodable, Text.isSome_toUtf8?_iff, Edit.isSome_stitched?_iff,
  Edit.size_pos_of_stitched?, Replacement.Encodable, Replacement.Decides.encodable_text_iff,
  Replacement.Decides.text_ne_nil
-/
import ModuleAlias.Proofs.Replacement.NamedModules
import ModuleAlias.Proofs.Replacement.Stitching

namespace ModuleAlias

/-!
### Texts that can be written
-/

namespace Text

/-- A text that can be written in UTF-8: it holds no half of a surrogate pair. -/
def Encodable (text : Text) : Prop := ∀ index, CodePoint.surrogate index ∉ text

@[simp] theorem encodable_nil : Encodable [] := fun _ => List.not_mem_nil

@[simp] theorem encodable_cons_scalar {char : Char} {text : Text} :
    Encodable (.scalar char :: text) ↔ Encodable text := by
  simp [Encodable]

@[simp] theorem encodable_append {front back : Text} :
    Encodable (front ++ back) ↔ Encodable front ∧ Encodable back := by
  simp [Encodable, forall_and]

@[simp] theorem encodable_ofChars (chars : List Char) : Encodable (ofChars chars) := by
  simp [Encodable, ofChars]

@[simp] theorem encodable_ofString (string : String) : Encodable (ofString string) :=
  encodable_ofChars string.toList

/-- Exactly the texts without halves of surrogate pairs have bytes. -/
theorem isSome_toUtf8?_iff {text : Text} : (toUtf8? text).isSome = true ↔ text.Encodable := by
  rw [toUtf8?, toString?, Option.isSome_map, Option.isSome_map]
  induction text with
  | nil => simp [toChars?]
  | cons codePoint text ih =>
      cases codePoint with
      | scalar char =>
          rw [encodable_cons_scalar, ← ih]
          simp only [toChars?, List.mapM_cons, CodePoint.toChar?]
          cases text.mapM CodePoint.toChar? with
          | none => rfl
          | some chars => rfl
      | surrogate index =>
          have held : ¬ Encodable (.surrogate index :: text) :=
            fun encodable => encodable index List.mem_cons_self
          simp [toChars?, CodePoint.toChar?, held]

/-- A text that is not empty has at least one byte. -/
theorem size_pos_of_toUtf8? {text : Text} {bytes : ByteArray} (filled : text ≠ [])
    (written : toUtf8? text = some bytes) : 0 < bytes.size := by
  obtain ⟨string, same, rfl⟩ := Option.map_eq_some_iff.1 written
  obtain ⟨chars, read, rfl⟩ := Option.map_eq_some_iff.1 same
  obtain ⟨codePoint, rest, rfl⟩ := List.exists_cons_of_ne_nil filled
  rw [toChars?, List.mapM_cons] at read
  obtain ⟨char, _, read⟩ := Option.bind_eq_some_iff.1 read
  obtain ⟨chars', _, read⟩ := Option.bind_eq_some_iff.1 read
  cases read
  apply Nat.pos_of_ne_zero
  intro none
  simp at none

/-- Texts with a separator between them can be written if each of them and the separator can. -/
theorem encodable_flatten_intersperse {separator : Text} (between : separator.Encodable)
    (texts : List Text) :
    Encodable (texts.intersperse separator).flatten ↔ ∀ text ∈ texts, text.Encodable := by
  induction texts with
  | nil => simp
  | cons first texts ih =>
      cases texts with
      | nil => simp
      | cons second texts => simpa [between] using fun _ => ih

end Text

/-- Edits in order can be made exactly if the text of every one can be written. -/
theorem Edit.isSome_stitched?_iff {bytes : ByteArray} {low high : Nat} {edits : List Edit} :
    (stitched? bytes low high edits).isSome = true ↔ ∀ edit ∈ edits, edit.text.Encodable := by
  induction edits generalizing low with
  | nil => simp [stitched?]
  | cons edit edits ih =>
      rw [List.forall_mem_cons, ← Text.isSome_toUtf8?_iff, ← @ih edit.stop, stitched?]
      cases Text.toUtf8? edit.text with
      | none => simp
      | some inserted =>
          cases stitched? bytes edit.stop high edits with
          | none => simp
          | some rest => simp

/-- Where a text is put in that is not empty, something is left. -/
theorem Edit.size_pos_of_stitched? {bytes after : ByteArray} {low high : Nat} {edits : List Edit}
    {edit : Edit} (known : edit ∈ edits) (filled : edit.text ≠ [])
    (stitched : stitched? bytes low high edits = some after) : 0 < after.size := by
  induction edits generalizing low after with
  | nil => exact absurd known List.not_mem_nil
  | cons first edits ih =>
      obtain ⟨inserted, written, stitched⟩ := Option.bind_eq_some_iff.1 stitched
      obtain ⟨rest, stitched', same⟩ := Option.bind_eq_some_iff.1 stitched
      cases same
      rw [ByteArray.size_append, ByteArray.size_append]
      rcases List.mem_cons.1 known with rfl | later
      · have here := Text.size_pos_of_toUtf8? filled written
        omega
      · have there := ih later stitched'
        omega

/-!
### The texts of replacements
-/

namespace Literal

/-- Putting backslashes into a text adds nothing else and takes nothing away. -/
theorem mem_escapeEvery_iff {mark : Text} {skip : Nat} {text : Text} {sought : CodePoint}
    (other : sought ≠ backslash) : sought ∈ escapeEvery mark skip text ↔ sought ∈ text := by
  fun_induction escapeEvery mark skip text
  case case1 => simp [other]
  case case2 => simp
  case case3 skip codePoint rest ih => simp [ih]
  case case4 codePoint rest marked ih => simp [other, ih]
  case case5 codePoint rest plain ih => simp [ih]

theorem encodable_quoted {quote value : Text} (quotes : quote.Encodable) :
    Text.Encodable (quoted quote value) ↔ value.Encodable := by
  have within (mark text : Text) :
      Text.Encodable (escapeEvery mark 0 text) ↔ text.Encodable := by
    exact forall_congr' fun index => not_congr (mem_escapeEvery_iff (by simp [backslash]))
  simp [quoted, quotes, within]

end Literal

namespace External.Binding

section
variable {binding : Binding} {globalObject : Text}

theorem encodable_expression :
    Text.Encodable (binding.expression globalObject) ↔ globalObject.Encodable := by
  simp [expression, property]

/-- A declaration of patterns that can be written can be written if the look-up can. -/
theorem encodable_declaration (patterns : ∀ pattern ∈ binding.patterns, pattern.Encodable) :
    Text.Encodable (binding.declaration globalObject) ↔ globalObject.Encodable := by
  have separator : Text.Encodable (Text.ofString ", ") := Text.encodable_ofString _
  unfold declaration
  dsimp only
  split
  · simp [encodable_expression]
  · rename_i bound
    obtain ⟨first, rest, some⟩ := List.exists_cons_of_ne_nil bound
    rw [some] at patterns ⊢
    obtain ⟨here, later⟩ := List.forall_mem_cons.1 patterns
    simp only [Text.encodable_append, Text.encodable_ofString, Text.encodable_ofChars, true_and,
      and_true, Text.encodable_flatten_intersperse separator, List.map_cons, List.forall_mem_cons,
      List.forall_mem_map, encodable_expression, here]
    exact and_iff_left_of_imp fun global pattern known => ⟨later pattern known, global⟩

theorem expression_ne_nil : binding.expression globalObject ≠ [] := by
  simp [expression, property, Text.ofChars]

theorem declaration_ne_nil : binding.declaration globalObject ≠ [] := by
  unfold declaration
  dsimp only
  split
  · simp [Text.ofChars]
  · simp [Text.ofChars]

end

end External.Binding

namespace Replacement

/-- A replacement that can be written in UTF-8: the specifier that it resolves to, or for an
external module the name of the global object, holds no half of a surrogate pair. -/
def Encodable (globalObject : Text) (replacement : Replacement) : Prop :=
  match replacement.kind with
  | .specifier => replacement.resolved.Encodable
  | .external => globalObject.Encodable

section
variable {task : Task} {configuration : Configuration} {around : List Script.Node}
  {node literal : Script.Node}

theorem encodable_literalQuote (source : Script.Source) :
    Text.Encodable (literalQuote source literal) := by
  unfold literalQuote
  split
  · simp
  · simp

/-- The names that an import or a call binds come from the source, so the look-up that binds them
can be written if the name of the global object can. -/
theorem encodable_render_formOf (target : External.Target) (specifier : Text) :
    let form := formOf task around node
    Text.Encodable (form.render (External.bind target specifier
        (form.bound.names.map Text.ofString) (form.bound.patterns.map Text.ofString))) ↔
      task.globalObject.Encodable := by
  unfold formOf
  split
  · apply External.Binding.encodable_declaration
    exact List.forall_mem_map.2 fun pattern _ => Text.encodable_ofString pattern
  · exact External.Binding.encodable_expression

theorem render_formOf_ne_nil (target : External.Target) (specifier : Text) :
    let form := formOf task around node
    form.render (External.bind target specifier (form.bound.names.map Text.ofString)
      (form.bound.patterns.map Text.ofString)) ≠ [] := by
  unfold formOf
  split
  · exact External.Binding.declaration_ne_nil
  · exact External.Binding.expression_ne_nil

/-- What a decision puts in place has bytes exactly if the replacement can be written. -/
theorem Decides.encodable_text_iff {specifier : Text} {outcome : Outcome}
    {replacement : Replacement}
    (decides : Decides task configuration node literal (formOf task around node) specifier outcome)
    (replaced : outcome.replacement? = some replacement) :
    replacement.text.Encodable ↔ replacement.Encodable task.globalObject := by
  cases decides with
  | unmatched => cases replaced
  | external matched declared =>
      cases replaced
      exact encodable_render_formOf _ specifier
  | changed matched internal differs =>
      cases replaced
      exact Literal.encodable_quoted (encodable_literalQuote task.source)
  | kept => cases replaced

/-- What a decision puts in place is never empty: a literal keeps its quotes, and a look-up its
brackets. -/
theorem Decides.text_ne_nil {specifier : Text} {outcome : Outcome} {replacement : Replacement}
    (decides : Decides task configuration node literal (formOf task around node) specifier outcome)
    (replaced : outcome.replacement? = some replacement) : replacement.text ≠ [] := by
  cases decides with
  | unmatched => cases replaced
  | external matched declared =>
      cases replaced
      exact render_formOf_ne_nil _ specifier
  | changed matched internal differs =>
      cases replaced
      have quotes : literalQuote task.source literal ≠ [] := by
        unfold literalQuote
        split <;> simp
      simp [specifierReplacement, Literal.quoted, quotes]
  | kept => cases replaced

end

end Replacement

end ModuleAlias
