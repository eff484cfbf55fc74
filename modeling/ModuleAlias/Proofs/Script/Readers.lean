/-
Module: ModuleAlias.Proofs.Script.Readers
Purpose: What readers read, whatever the place. A property of all results of a reader is found from
  properties of the results of the readers that it consists of.
Imports: ModuleAlias.Script.Reader
Main exports: Script.Reader.Yields, Script.Reader.Yields.many, Script.Reader.Yields.listUntil,
  Script.Reader.yields_node
-/
import ModuleAlias.Script.Reader

namespace ModuleAlias.Script.Reader

variable {α β : Type}

/-!
### Results at a place
-/

section
variable {cursor after : Cursor}

/-- What two readers read one after the other, the first one read up to a place from which the
second one went on. -/
theorem exists_of_bind {first : Reader α} {second : α → Reader β} {result : β}
    (read : (first >>= second) cursor = some (result, after)) :
    ∃ middle between, first cursor = some (middle, between) ∧
      second middle between = some (result, after) := by
  obtain ⟨⟨middle, between⟩, begins, goesOn⟩ := Option.bind_eq_some_iff.1 read
  exact ⟨middle, between, begins, goesOn⟩

theorem orElse_of_read {first second : Reader α} {found : α × Cursor}
    (read : first cursor = some found) : (first <|> second) cursor = some found := by
  change (first cursor <|> second cursor) = _
  rw [read]
  rfl

theorem orElse_of_none {first second : Reader α} (missing : first cursor = none) :
    (first <|> second) cursor = second cursor := by
  change (first cursor <|> second cursor) = _
  rw [missing]
  rfl

end

/-!
### Properties of all results
-/

/-- Every result of a reader has a property. -/
def Yields (reader : Reader α) (holds : α → Prop) : Prop :=
  ∀ ⦃cursor : Cursor⦄ ⦃result : α⦄ ⦃after : Cursor⦄,
    reader cursor = some (result, after) → holds result

theorem yields_pure {holds : α → Prop} {result : α} (known : holds result) :
    Yields (pure result) holds := by
  intro cursor result' after read
  cases read
  exact known

theorem yields_failure {holds : α → Prop} : Yields failure holds := by
  intro cursor result after read
  cases read

theorem Yields.bind {first : Reader α} {second : α → Reader β} {before : α → Prop}
    {holds : β → Prop} (begins : first.Yields before)
    (goesOn : ∀ middle, before middle → (second middle).Yields holds) :
    (first >>= second).Yields holds := by
  intro cursor result after read
  obtain ⟨middle, between, firstRead, secondRead⟩ := exists_of_bind read
  exact goesOn middle (begins firstRead) secondRead

/-- Where the result of the first reader does not matter. -/
theorem yields_after {first : Reader α} {second : α → Reader β} {holds : β → Prop}
    (goesOn : ∀ middle, (second middle).Yields holds) : (first >>= second).Yields holds := by
  have begins : first.Yields fun _ => True := fun _ _ _ _ => trivial
  exact begins.bind fun middle _ => goesOn middle

theorem Yields.ite {condition : Prop} [Decidable condition] {first second : Reader α}
    {holds : α → Prop} (yes : first.Yields holds) (no : second.Yields holds) :
    (if condition then first else second).Yields holds := by
  split
  · exact yes
  · exact no

theorem Yields.orElse {first second : Reader α} {holds : α → Prop} (one : first.Yields holds)
    (other : second.Yields holds) : (first <|> second).Yields holds := by
  intro cursor result after read
  cases begins : first cursor with
  | none => exact other ((orElse_of_none begins).symm.trans read)
  | some found => exact one (begins.trans ((orElse_of_read begins).symm.trans read))

theorem Yields.attempt {reader : Reader α} {holds : α → Prop} (each : reader.Yields holds) :
    reader.attempt.Yields fun found => ∀ result ∈ found, holds result := by
  refine Yields.orElse ?_ (yields_pure nofun)
  intro cursor found after read
  obtain ⟨⟨result, between⟩, one, same⟩ := Option.bind_eq_some_iff.1 read
  cases same
  rintro result' ⟨⟩
  exact each one

theorem Yields.manyUpTo {reader : Reader α} {holds : α → Prop} (each : reader.Yields holds)
    (fuel : Nat) :
    (reader.manyUpTo fuel).Yields fun results => ∀ result ∈ results, holds result := by
  induction fuel with
  | zero => exact yields_pure nofun
  | succ fuel ih =>
      refine yields_after fun before => each.attempt.bind fun found known => ?_
      cases found with
      | none => exact yields_pure nofun
      | some result =>
          have head : holds result := known result rfl
          refine yields_after fun after => Yields.ite ?_ ?_
          · exact ih.bind fun results tail => yields_pure (List.forall_mem_cons.2 ⟨head, tail⟩)
          · exact yields_pure (List.forall_mem_singleton.2 head)

theorem Yields.many {reader : Reader α} {holds : α → Prop} (each : reader.Yields holds) :
    reader.many.Yields fun results => ∀ result ∈ results, holds result :=
  yields_after fun _ => each.manyUpTo _

theorem Yields.listUntil {reader : Reader α} {holds : α → Prop} (each : reader.Yields holds)
    (closing : String) :
    (reader.listUntil closing).Yields fun results => ∀ result ∈ results, holds result := by
  refine yields_after fun closes => Yields.ite (yields_pure nofun) (each.bind fun first head => ?_)
  have later : (do
      mark ","
      require (!(← nextIsMark closing))
      reader).Yields holds :=
    yields_after fun _ => yields_after fun _ => yields_after fun _ => each
  refine later.many.bind fun more tail => yields_after fun _ => yields_after fun _ => ?_
  exact yields_pure (List.forall_mem_cons.2 ⟨head, tail⟩)

/-!
### Nodes
-/

/-- A node of a kind that plays no part yet. -/
def IsMember (kind : Kind) (node : Node) : Prop := node.kind = kind ∧ node.part = .member

theorem yields_node (kind : Kind) (start : Nat) (children : List Node) :
    (node kind start children).Yields fun read =>
      ∃ stop, read = .mk kind .member start stop children :=
  yields_after fun stop => yields_pure ⟨stop, rfl⟩

theorem yields_anyWord (kind : Kind) : (anyWord kind).Yields (IsMember kind) := by
  refine yields_after fun lexeme => ?_
  split
  · exact yields_pure ⟨rfl, rfl⟩
  · exact yields_failure

theorem yields_name (kind : Kind) : (name kind).Yields (IsMember kind) := by
  refine yields_after fun lexeme => ?_
  split
  · exact yields_after fun _ => yields_anyWord kind
  · exact yields_failure

end ModuleAlias.Script.Reader
