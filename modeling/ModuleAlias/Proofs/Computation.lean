/-
Module: ModuleAlias.Proofs.Computation
Purpose: Computations that may fail, taken apart: where one step after another gives a result, each
  of them gave one; and where failures are of two kinds, those of one kind are missing exactly if
  every failure is of the other.
Imports: none
Main exports: exists_of_bind_eq_ok, eq_ok_of_toOption, result_or_told_iff
-/

namespace ModuleAlias

section
variable {ε α β : Type}

/-- Where two steps give a result, the first gave what the second took. -/
theorem exists_of_bind_eq_ok {first : Except ε α} {second : α → Except ε β} {result : β}
    (done : first.bind second = .ok result) :
    ∃ middle, first = .ok middle ∧ second middle = .ok result := by
  cases first with
  | error failure => cases done
  | ok middle => exact ⟨middle, rfl, done⟩

theorem eq_ok_of_toOption {computed : Except ε α} {result : α}
    (gives : computed.toOption = some result) : computed = .ok result := by
  cases computed with
  | error failure => cases gives
  | ok result' => exact congrArg Except.ok (Option.some_inj.1 gives)

/-- Where a failure that is not silent is told, and a silent one is not, a computation gives a result
or a failure that is told exactly if there is no silent one. -/
theorem result_or_told_iff {computed : Except ε α} {told silent : ε → Prop}
    (kinds : ∀ failure, computed = .error failure → told failure ∨ silent failure)
    (escapes : ∀ failure, silent failure → computed = .error failure ∧ ¬ told failure) :
    ((∃ result, computed = .ok result) ∨ ∃ failure, computed = .error failure ∧ told failure) ↔
      ∀ failure, ¬ silent failure := by
  constructor
  · rintro answers failure silently
    obtain ⟨failed, untold⟩ := escapes failure silently
    rcases answers with ⟨result, done⟩ | ⟨failure', failed', tells⟩
    · cases failed.symm.trans done
    · obtain rfl := Except.error.inj (failed.symm.trans failed')
      exact untold tells
  · intro none
    cases came : computed with
    | ok result => exact Or.inl ⟨result, rfl⟩
    | error failure =>
        exact Or.inr ⟨failure, rfl, (kinds failure came).resolve_right (none failure)⟩

end

end ModuleAlias
