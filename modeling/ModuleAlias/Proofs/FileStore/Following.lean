/-
Module: ModuleAlias.Proofs.FileStore.Following
Purpose: Where paths lead in a store, before and after a file is written. A path and its plain form
  lead to the same place where both lead somewhere, and a new content of a file changes where no
  path leads.
Imports: ModuleAlias.FileStore, ModuleAlias.Proofs.Computation, ModuleAlias.Proofs.Path.PlainPaths
Main exports: FileStore.follow_toText_eq, FileStore.readBytes_eq_ok, FileStore.overwrite_eq_ok,
  FileStore.at?_put_of_ne, FileStore.follow_put, FileStore.readBytes_of_overwrite
-/
import ModuleAlias.FileStore
import ModuleAlias.Proofs.Computation
import ModuleAlias.Proofs.Path.PlainPaths

namespace ModuleAlias.FileStore

variable {store : FileStore}

/-!
### Where paths lead
-/

/-- A segment that does not lead to another place stays, where it can be followed at all. -/
theorem step_eq_of_not_leads {place next : Place} {segment : Text}
    (idle : Path.leads segment = false) (stepped : step store place segment = .ok next) :
    next = place := by
  have nowhere : segment = [] ∨ segment = Path.here := by
    simpa [Path.leads, Classical.or_iff_not_imp_left] using idle
  unfold step at stepped
  split at stepped
  · cases stepped
  · cases stepped
  · rw [if_pos nowhere] at stepped
    cases stepped
    rfl

/-- Segments that do not lead to another place can be left out. -/
theorem foldlM_filter_leads {place last : Place} {segments : List Text}
    (followed : segments.foldlM (step store) place = .ok last) :
    (segments.filter Path.leads).foldlM (step store) place = .ok last := by
  induction segments generalizing place with
  | nil => exact followed
  | cons segment segments ih =>
      rw [List.foldlM_cons] at followed
      obtain ⟨next, stepped, rest⟩ := exists_of_bind_eq_ok followed
      cases leading : Path.leads segment with
      | true =>
          rw [List.filter_cons_of_pos leading, List.foldlM_cons, stepped]
          exact ih rest
      | false =>
          rw [List.filter_cons_of_neg (by simp [leading])]
          rw [step_eq_of_not_leads leading stepped] at rest
          exact ih rest

section
variable {process path : Text} (absolute : Path.isAbsolute process = true)

include absolute

/-- A path leads along its significant segments. -/
theorem foldlM_significant {place : Place} (followed : store.follow process path = .ok place) :
    (Path.significant (Path.combine process path)).foldlM (step store) [] = .ok place := by
  rw [← Path.significant_drop_one (Path.isAbsolute_combine path absolute)]
  exact foldlM_filter_leads followed

/-- A path and its plain form do not lead to different places. -/
theorem follow_toText_eq {place place' : Place} (followed : store.follow process path = .ok place)
    (followed' : store.follow process (Path.Plain.ofText path).toText = .ok place') :
    place = place' := by
  have along := foldlM_significant absolute followed
  have along' := foldlM_significant absolute followed'
  rw [Path.significant_combine_toText path absolute, along] at along'
  exact Except.ok.inj along'

end

/-!
### Reading and writing
-/

section
variable {process path : Text} {content : ByteArray}

theorem readBytes_eq_ok (read : store.readBytes process path = .ok content) :
    path ≠ [] ∧ ∃ place, store.follow process path = .ok place ∧
      store.at? place = some (.file content) := by
  unfold readBytes at read
  split at read
  · cases read
  · rename_i nonempty
    obtain ⟨place, followed, read⟩ := exists_of_bind_eq_ok read
    refine ⟨nonempty, place, followed, ?_⟩
    split at read
    · cases read
    · cases read
    · rename_i found
      cases read
      exact found

theorem readBytes_of_follow {place : Place} (nonempty : path ≠ [])
    (followed : store.follow process path = .ok place)
    (found : store.at? place = some (.file content)) :
    store.readBytes process path = .ok content := by
  simp [readBytes, nonempty, followed, found, pure, Except.pure, bind, Except.bind]

/-- A path that is written to leads to a place, and the content is put there. -/
theorem overwrite_eq_ok {after : FileStore}
    (written : store.overwrite process path content = .ok after) :
    ∃ place, store.follow process path = .ok place ∧ after = store.put place (.file content) := by
  by_cases empty : path = []
  · simp [overwrite, empty, throw, throwThe, MonadExceptOf.throw, bind, Except.bind] at written
  · by_cases ended : path.getLast? = some Path.slash
    · cases above : store.follow process (Path.parent path) <;>
        simp [overwrite, empty, ended, above, throw, throwThe, MonadExceptOf.throw, bind,
          Except.bind] at written
    · rw [overwrite, if_neg empty, if_neg ended] at written
      obtain ⟨place, followed, written⟩ := exists_of_bind_eq_ok written
      refine ⟨place, followed, ?_⟩
      split at written
      · cases written
      · cases written
        rfl

end

/-!
### New contents
-/

section
variable {place : Place} {item : Item}

theorem at?_put_self (below : place ≠ []) : (store.put place item).at? place = some item := by
  simp [at?, put, below]

/-- What stands at other places stays. -/
theorem at?_put_of_ne {other : Place} (different : other ≠ place) :
    (store.put place item).at? other = store.at? other := by
  unfold at?
  by_cases top : other = []
  · rw [if_pos top, if_pos top]
  · rw [if_neg top, if_neg top, put, List.find?_cons_of_neg (by simp [Ne.symm different]),
      List.find?_filter]
    congr 2
    funext stands
    by_cases same : stands.1 = other
    · simp [same, different]
    · simp [same]

/-- A file with a new content is no more a directory than it was. -/
theorem step_put {content new : ByteArray} (stands : store.at? place = some (.file content)) :
    step (store.put place (.file new)) = step store := by
  funext from' segment
  by_cases here : from' = place
  · subst here
    have below : from' ≠ [] := by
      rintro rfl
      simp [at?] at stands
    rw [step, at?_put_self below, step, stands]
  · rw [step, at?_put_of_ne here, step]

theorem follow_put {content new : ByteArray} (stands : store.at? place = some (.file content))
    (process path : Text) :
    (store.put place (.file new)).follow process path = store.follow process path := by
  rw [follow, step_put stands, follow]

end

/-- What is written through a path is read through its plain form, if that was a file before, and
everything else stays as it was. -/
theorem readBytes_of_overwrite {process path : Text} {content new : ByteArray} {after : FileStore}
    (absolute : Path.isAbsolute process = true)
    (read : store.readBytes process (Path.Plain.ofText path).toText = .ok content)
    (written : store.overwrite process path new = .ok after) :
    after.readBytes process (Path.Plain.ofText path).toText = .ok new ∧
      ∀ place, store.follow process (Path.Plain.ofText path).toText ≠ .ok place →
        after.at? place = store.at? place := by
  obtain ⟨nonempty, place, followed, stands⟩ := readBytes_eq_ok read
  obtain ⟨place', followed', rfl⟩ := overwrite_eq_ok written
  have same : place' = place := follow_toText_eq absolute followed' followed
  subst same
  have below : place' ≠ [] := by
    rintro rfl
    simp [at?] at stands
  constructor
  · apply readBytes_of_follow nonempty
    · exact (follow_put stands _ _).trans followed
    · exact at?_put_self below
  · intro other elsewhere
    apply at?_put_of_ne
    rintro rfl
    exact elsewhere followed

end ModuleAlias.FileStore
