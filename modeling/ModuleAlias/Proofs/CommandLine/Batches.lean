/-
Module: ModuleAlias.Proofs.CommandLine.Batches
Purpose: What the command for transforming files in place leaves when it is given many. The files
  are transformed one after another, each in the files that those before it left, until the
  transform of one fails. A file then holds the code of the last result in which something was
  replaced, every other file is as it was, and the status tells whether all files were transformed.
Imports: ModuleAlias.Proofs.CommandLine.InPlace, ModuleAlias.Proofs.Transform.Returning,
  Mathlib.Data.Nat.Find
Main exports: CommandLine.Standing, CommandLine.Batch, CommandLine.Batch.StopsAt,
  CommandLine.Batch.WritesTo, CommandLine.Batch.Leaves, CommandLine.Batch.transformEach_of_stopsAt,
  CommandLine.transform_many_in_place
-/
import Mathlib.Data.Nat.Find
import ModuleAlias.Proofs.CommandLine.InPlace
import ModuleAlias.Proofs.Transform.Returning

namespace ModuleAlias.CommandLine

open Session FileStore

/-!
### From one file to the next
-/

/-- What a transform of files goes on from: what is around it, and the configurations that it has
read. -/
structure Standing where
  around : Surroundings
  provider : Provider := {}

/-- The standing of a part of a run. -/
def Progress.standing (progress : Progress) : Standing where
  around := progress.around
  provider := progress.provider

namespace Standing

/-- The run over a file. -/
def runOf (standing : Standing) (transform : Transform) (path : Text) : Transform.Run Provider :=
  transform.runFile standing.around path standing.provider

/-- Whether the code of a result can be written to a file. -/
def takes (standing : Standing) (path : Text) (result : Transform.Result) : Bool :=
  (standing.around.store.overwrite standing.around.process path result.code.toUTF8).isOk

/-- The files after the code of a result is written to one of them, if anything was replaced. -/
def written (standing : Standing) (path : Text) (result : Transform.Result) : FileStore :=
  if result.changed then
    match standing.around.store.overwrite standing.around.process path result.code.toUTF8 with
    | .ok store => store
    | .error _ => standing.around.store
  else standing.around.store

/-- The standing behind a file. -/
def after (transform : Transform) (standing : Standing) (path : Text) : Standing :=
  let run := standing.runOf transform path
  match run.result with
  | .error _ => { standing with provider := run.state }
  | .ok result =>
    { around := { standing.around with store := standing.written path result }
      provider := run.state }

section
variable {standing : Standing} {transform : Transform} {path : Text} {result : Transform.Result}

theorem after_of_ok (ran : (standing.runOf transform path).result = .ok result) :
    standing.after transform path =
      { around := { standing.around with store := standing.written path result }
        provider := (standing.runOf transform path).state } := by
  simp only [after, ran]

theorem written_of_unchanged (unchanged : result.changed = false) :
    standing.written path result = standing.around.store := by
  rw [written, unchanged]
  rfl

theorem exists_overwritten_of_takes (taken : standing.takes path result = true) :
    ∃ store, standing.around.store.overwrite standing.around.process path result.code.toUTF8 =
      .ok store := by
  unfold takes at taken
  cases overwritten : standing.around.store.overwrite standing.around.process path
      result.code.toUTF8 with
  | error fault =>
      rw [overwritten] at taken
      cases taken
  | ok store => exact ⟨store, rfl⟩

theorem written_of_changed {store : FileStore} (changed : result.changed = true)
    (overwritten :
      standing.around.store.overwrite standing.around.process path result.code.toUTF8 =
        .ok store) : standing.written path result = store := by
  rw [written, if_pos changed, overwritten]

/-- A file of which something is replaced was there before, and is written to. -/
theorem exists_written_of_changed (inRoot : Path.isAbsolute standing.around.process = true)
    (ran : (standing.runOf transform path).result = .ok result) (changed : result.changed = true)
    (taken : standing.takes path result = true) :
    ∃ place content, standing.around.store.follow standing.around.process path = .ok place ∧
      standing.around.store.at? place = some (.file content) ∧
      standing.written path result =
        standing.around.store.put place (.file result.code.toUTF8) := by
  obtain ⟨content, _, _, held, _⟩ := code_iff_of_runFile ran
  obtain ⟨_, place, followed, stands⟩ := readBytes_eq_ok held
  obtain ⟨store, overwritten⟩ := exists_overwritten_of_takes taken
  obtain ⟨place', followed', rfl⟩ := overwrite_eq_ok overwritten
  obtain rfl : place' = place := follow_toText_eq inRoot followed' followed
  exact ⟨place', content, followed', stands, written_of_changed changed overwritten⟩

/-- What is written to a file is never empty. -/
theorem size_pos_of_changed (ran : (standing.runOf transform path).result = .ok result)
    (changed : result.changed = true) : 0 < result.code.toUTF8.size := by
  have replaced : result.replacements ≠ [] := by simpa [Transform.Result.changed] using changed
  unfold runOf Transform.runFile at ran
  split at ran
  · cases ran
  · exact Transform.size_pos_of_runTree rfl ran replaced

end

end Standing

/-!
### One step of the command
-/

section
variable {verbose several : Bool} {transform : Transform} {path : Text} {progress : Progress}

/-- The progress behind a file, before anything is written to it. -/
def afterFile (verbose : Bool) (transform : Transform) (path : Text) (progress : Progress) :
    Progress :=
  match Transform.openFile progress.around path with
  | .error _ => progress
  | .ok (text, filename) => afterRun verbose transform text filename progress

theorem standing_afterFile :
    (afterFile verbose transform path progress).standing =
      { around := progress.around
        provider := (progress.standing.runOf transform path).state } := by
  unfold afterFile Standing.runOf Transform.runFile Progress.standing
  cases Transform.openFile progress.around path with
  | error fault => rfl
  | ok read => rfl

/-- What a file comes to, by the run over it. -/
theorem outcome_transformFile_of_runOf :
    (transformFile verbose true several transform path).outcome progress =
      let next := afterFile verbose transform path progress
      match (progress.standing.runOf transform path).result with
      | .error fault => (.error fault, next)
      | .ok result =>
        let next := told (result.replacements.flatMap (replacementMessage path)) next
        if result.changed then (write path result.code.toUTF8).outcome next
        else (.ok (), next) := by
  rw [outcome_transformFile_inPlace]
  unfold afterFile Standing.runOf Transform.runFile Progress.standing
  cases Transform.openFile progress.around path with
  | error fault => rfl
  | ok read => rfl

/-- A file whose transform fails ends the command and changes no file. -/
theorem outcome_of_runOf_error {fault : Fault}
    (failed : (progress.standing.runOf transform path).result = .error fault) :
    ∃ next, (transformFile verbose true several transform path).outcome progress =
      (.error fault, next) ∧ next.around = progress.around := by
  rw [outcome_transformFile_of_runOf, failed]
  exact ⟨_, rfl, congrArg Standing.around standing_afterFile⟩

/-- From a file whose transform returns a result the command goes on to the next one, if what is to
be written can be written. -/
theorem outcome_of_runOf_ok {result : Transform.Result}
    (ran : (progress.standing.runOf transform path).result = .ok result)
    (taken : result.changed = true → progress.standing.takes path result = true) :
    ∃ next, (transformFile verbose true several transform path).outcome progress =
      (.ok (), next) ∧ next.standing = progress.standing.after transform path := by
  have behind := @standing_afterFile verbose transform path progress
  have around : (afterFile verbose transform path progress).around = progress.around :=
    congrArg Standing.around behind
  have provider : (afterFile verbose transform path progress).provider =
      (progress.standing.runOf transform path).state := congrArg Standing.provider behind
  rw [outcome_transformFile_of_runOf, ran, Standing.after_of_ok ran]
  cases changed : result.changed with
  | false =>
      rw [Standing.written_of_unchanged changed]
      simp only [changed]
      exact ⟨_, rfl, behind⟩
  | true =>
      obtain ⟨store, overwritten⟩ := Standing.exists_overwritten_of_takes (taken changed)
      rw [Standing.written_of_changed changed overwritten]
      simp only [changed, if_true, outcome_write, told, around]
      simp only [Progress.standing] at overwritten
      simp only [overwritten]
      exact ⟨_, rfl, by simp only [Progress.standing, provider]⟩

end

/-!
### Many files
-/

/-- Files that are to be transformed one after another. -/
structure Batch where
  transform : Transform
  start : Standing
  files : List Text

namespace Batch

/-- The standing behind a number of files. -/
def standing (batch : Batch) (count : Nat) : Standing :=
  (batch.files.take count).foldl (Standing.after batch.transform) batch.start

/-- What comes of the file at a position, in the files that those before it left. -/
def resultAt? (batch : Batch) (index : Nat) : Option (Except Fault Transform.Result) :=
  batch.files[index]?.map fun path => ((batch.standing index).runOf batch.transform path).result

/-- Whether the transform of the file at a position fails. -/
def failsAt (batch : Batch) (index : Nat) : Bool :=
  (batch.resultAt? index).any fun came => !came.isOk

/-- The transform of the file at a position is the first one that fails; if none does, the position
is behind the last file. -/
structure StopsAt (batch : Batch) (stop : Nat) : Prop where
  within : stop ≤ batch.files.length
  before : ∀ index < stop, batch.failsAt index = false
  fails : stop < batch.files.length → batch.failsAt stop = true

/-- Whether the result for the file at a position can be written, if it is to be written. -/
def takesAt (batch : Batch) (index : Nat) : Bool :=
  batch.files[index]?.all fun path =>
    match ((batch.standing index).runOf batch.transform path).result with
    | .error _ => true
    | .ok result => !result.changed || (batch.standing index).takes path result

/-- The file at a position is the one at a place, and something is replaced in it with a result. -/
structure WritesTo (batch : Batch) (index : Nat) (place : Place) (result : Transform.Result) :
    Prop where
  leads : ∃ path, batch.files[index]? = some path ∧
    batch.start.around.store.follow batch.start.around.process path = .ok place
  came : batch.resultAt? index = some (.ok result)
  changed : result.changed = true

/-- Nothing is written to a place by the files before a position. -/
def Untouched (batch : Batch) (stop : Nat) (place : Place) : Prop :=
  ∀ index < stop, ∀ result, ¬ batch.WritesTo index place result

/-- What is written to a place with the result for the file at a position is the last that is
written there before another position. -/
structure WritesLast (batch : Batch) (stop index : Nat) (place : Place)
    (result : Transform.Result) : Prop where
  within : index < stop
  writes : batch.WritesTo index place result
  last : ∀ later, index < later → later < stop → ∀ other, ¬ batch.WritesTo later place other

/-!
### What a number of files leave
-/

section
variable {batch : Batch} {count index stop : Nat} {path : Text} {place : Place}
  {result : Transform.Result}

theorem standing_zero : batch.standing 0 = batch.start := by
  simp [standing]

theorem standing_succ (known : batch.files[count]? = some path) :
    batch.standing (count + 1) = (batch.standing count).after batch.transform path := by
  rw [standing, List.take_add_one, known, List.foldl_append]
  rfl

theorem exists_path_of_resultAt? {came : Except Fault Transform.Result}
    (known : batch.resultAt? index = some came) :
    ∃ path, batch.files[index]? = some path ∧
      ((batch.standing index).runOf batch.transform path).result = came :=
  Option.map_eq_some_iff.1 known

/-- The file at a position before the first one that fails has a result. -/
theorem StopsAt.exists_result (stops : batch.StopsAt stop) (before : index < stop) :
    ∃ result, batch.resultAt? index = some (.ok result) := by
  obtain ⟨path, known⟩ : ∃ path, batch.files[index]? = some path :=
    ⟨_, List.getElem?_eq_getElem (Nat.lt_of_lt_of_le before stops.within)⟩
  have sound := stops.before index before
  unfold failsAt at sound
  unfold resultAt? at sound ⊢
  rw [known, Option.map_some] at sound ⊢
  cases came : ((batch.standing index).runOf batch.transform path).result with
  | ok result => exact ⟨result, rfl⟩
  | error fault =>
      rw [came] at sound
      cases sound

theorem takes_of_takesAt (taken : batch.takesAt index = true)
    (known : batch.files[index]? = some path)
    (ran : ((batch.standing index).runOf batch.transform path).result = .ok result)
    (changed : result.changed = true) : (batch.standing index).takes path result = true := by
  simpa [takesAt, known, ran, changed] using taken

namespace WritesTo

theorem unique {place' : Place} {result' : Transform.Result}
    (writes : batch.WritesTo index place result)
    (writes' : batch.WritesTo index place' result') : place = place' ∧ result = result' := by
  obtain ⟨path, known, followed⟩ := writes.leads
  obtain ⟨path', known', followed'⟩ := writes'.leads
  obtain rfl := Option.some.inj (known.symm.trans known')
  exact ⟨Except.ok.inj (followed.symm.trans followed'),
    Except.ok.inj (Option.some.inj (writes.came.symm.trans writes'.came))⟩

/-- What is written is never empty. -/
theorem size_pos (writes : batch.WritesTo index place result) : 0 < result.code.toUTF8.size := by
  obtain ⟨path, _, ran⟩ := exists_path_of_resultAt? writes.came
  exact Standing.size_pos_of_changed ran writes.changed

end WritesTo

theorem Untouched.of_succ (untouched : batch.Untouched (count + 1) place) :
    batch.Untouched count place :=
  fun index before => untouched index (Nat.lt_succ_of_lt before)

theorem WritesLast.of_succ (last : batch.WritesLast (count + 1) index place result)
    (before : index < count) : batch.WritesLast count index place result where
  within := before
  writes := last.writes
  last := fun later after before => last.last later after (Nat.lt_succ_of_lt before)

/-- What stands where after a number of files: paths lead where they led, every file that nothing is
written to is as it was, and the others, which were files before, hold what was written there
last. -/
structure Leaves (batch : Batch) (count : Nat) : Prop where
  process : (batch.standing count).around.process = batch.start.around.process
  follows : ∀ process path, (batch.standing count).around.store.follow process path =
    batch.start.around.store.follow process path
  keeps : ∀ place, batch.Untouched count place →
    (batch.standing count).around.store.at? place = batch.start.around.store.at? place
  holds : ∀ index place result, batch.WritesLast count index place result →
    (batch.standing count).around.store.at? place = some (.file result.code.toUTF8)
  stood : ∀ index < count, ∀ place result, batch.WritesTo index place result →
    ∃ content, batch.start.around.store.at? place = some (.file content)

theorem leaves_zero (batch : Batch) : batch.Leaves 0 where
  process := by rw [standing_zero]
  follows := by
    intro process path
    rw [standing_zero]
  keeps := by
    intro place _
    rw [standing_zero]
  holds := by
    intro index place result writes
    exact absurd writes.within (Nat.not_lt_zero index)
  stood := by
    intro index before
    exact absurd before (Nat.not_lt_zero index)

/-- A place at which a file stands was one before. -/
theorem Leaves.exists_content (leaves : batch.Leaves count) {content : ByteArray}
    (stands : (batch.standing count).around.store.at? place = some (.file content)) :
    ∃ content, batch.start.around.store.at? place = some (.file content) := by
  by_cases untouched : batch.Untouched count place
  · exact ⟨content, (leaves.keeps place untouched).symm.trans stands⟩
  · simp only [Untouched, not_forall, not_not] at untouched
    obtain ⟨index, before, result, writes⟩ := untouched
    exact leaves.stood index before place result writes

/-- A file in which nothing is replaced leaves everything as it is. -/
theorem Leaves.succ_of_unchanged (leaves : batch.Leaves count)
    (came : batch.resultAt? count = some (.ok result)) (unchanged : result.changed = false) :
    batch.Leaves (count + 1) := by
  obtain ⟨path, known, ran⟩ := exists_path_of_resultAt? came
  have same : (batch.standing (count + 1)).around = (batch.standing count).around := by
    rw [standing_succ known, Standing.after_of_ok ran, Standing.written_of_unchanged unchanged]
  have idle : ∀ place result, ¬ batch.WritesTo count place result := by
    intro place result' writes
    obtain rfl : result = result' :=
      Except.ok.inj (Option.some.inj (came.symm.trans writes.came))
    rw [writes.changed] at unchanged
    cases unchanged
  have earlier {index : Nat} {place : Place} {result : Transform.Result}
      (before : index < count + 1) (writes : batch.WritesTo index place result) :
      index < count := by
    apply Nat.lt_of_le_of_ne (Nat.le_of_lt_succ before)
    rintro rfl
    exact idle place result writes
  constructor
  · rw [same]
    exact leaves.process
  · rw [same]
    exact leaves.follows
  · intro place untouched
    rw [same]
    exact leaves.keeps place untouched.of_succ
  · intro index place result last
    rw [same]
    exact leaves.holds index place result (last.of_succ (earlier last.within last.writes))
  · intro index before place result writes
    exact leaves.stood index (earlier before writes) place result writes

/-- A file in which something is replaced leaves its result at its place. -/
theorem Leaves.succ_of_changed (leaves : batch.Leaves count)
    (inRoot : Path.isAbsolute batch.start.around.process = true)
    (came : batch.resultAt? count = some (.ok result)) (changed : result.changed = true)
    (taken : batch.takesAt count = true) : batch.Leaves (count + 1) := by
  obtain ⟨path, known, ran⟩ := exists_path_of_resultAt? came
  obtain ⟨place, content, followed, stands, written⟩ :=
    Standing.exists_written_of_changed (leaves.process.symm ▸ inRoot) ran changed
      (takes_of_takesAt taken known ran changed)
  have after : (batch.standing (count + 1)).around =
      { (batch.standing count).around with
        store := (batch.standing count).around.store.put place (.file result.code.toUTF8) } := by
    rw [standing_succ known, Standing.after_of_ok ran, written]
  have writes : batch.WritesTo count place result := by
    refine ⟨⟨path, known, ?_⟩, came, changed⟩
    rw [← leaves.follows, ← leaves.process]
    exact followed
  have below : place ≠ [] := by
    rintro rfl
    simp [FileStore.at?] at stands
  constructor
  · rw [after]
    exact leaves.process
  · intro process path
    rw [after, ← leaves.follows]
    exact follow_put stands process path
  · intro other untouched
    have elsewhere : other ≠ place := by
      rintro rfl
      exact untouched count (Nat.lt_succ_self count) result writes
    rw [after]
    exact (at?_put_of_ne elsewhere).trans (leaves.keeps other untouched.of_succ)
  · intro index other result' last
    rw [after]
    -- What is written last is what is written now, or was written to another place before.
    rcases Nat.lt_succ_iff_lt_or_eq.1 last.within with before | rfl
    · have elsewhere : other ≠ place := by
        rintro rfl
        exact last.last count before (Nat.lt_succ_self count) result writes
      exact (at?_put_of_ne elsewhere).trans
        (leaves.holds index other result' (last.of_succ before))
    · obtain ⟨rfl, rfl⟩ := writes.unique last.writes
      exact at?_put_self below
  · intro index before other result' writes'
    rcases Nat.lt_succ_iff_lt_or_eq.1 before with earlier | rfl
    · exact leaves.stood index earlier other result' writes'
    · obtain ⟨rfl, rfl⟩ := writes.unique writes'
      exact leaves.exists_content stands

/-- What the files before the first one that fails leave, if what is to be written can be written.
-/
theorem StopsAt.leaves (stops : batch.StopsAt stop)
    (inRoot : Path.isAbsolute batch.start.around.process = true)
    (taken : ∀ index < stop, batch.takesAt index = true) : batch.Leaves stop := by
  have all : ∀ count ≤ stop, batch.Leaves count := by
    intro count within
    induction count with
    | zero => exact leaves_zero batch
    | succ count ih =>
        have leaves := ih (Nat.le_of_succ_le within)
        obtain ⟨result, came⟩ := stops.exists_result within
        cases changed : result.changed with
        | false => exact leaves.succ_of_unchanged came changed
        | true => exact leaves.succ_of_changed inRoot came changed (taken count within)
  exact all stop (Nat.le_refl stop)

/-!
### The command over many files
-/

/-- The files behind the first one, from where that one leaves off. -/
def behind (transform : Transform) (start : Standing) (path : Text) (paths : List Text) :
    Batch where
  transform
  start := start.after transform path
  files := paths

section
variable {transform : Transform} {start : Standing} {paths : List Text}

theorem standing_cons (count : Nat) :
    (Batch.mk transform start (path :: paths)).standing (count + 1) =
      (behind transform start path paths).standing count := rfl

theorem failsAt_cons (index : Nat) :
    (Batch.mk transform start (path :: paths)).failsAt (index + 1) =
      (behind transform start path paths).failsAt index := rfl

theorem takesAt_cons (index : Nat) :
    (Batch.mk transform start (path :: paths)).takesAt (index + 1) =
      (behind transform start path paths).takesAt index := rfl

theorem failsAt_zero_cons :
    (Batch.mk transform start (path :: paths)).failsAt 0 =
      !((start.runOf transform path).result.isOk) := rfl

theorem takes_of_takesAt_zero
    (taken : (Batch.mk transform start (path :: paths)).takesAt 0 = true)
    (ran : (start.runOf transform path).result = .ok result) (changed : result.changed = true) :
    start.takes path result = true := by
  simpa [takesAt, standing_zero, ran, changed] using taken

theorem stopsAt_cons (stops : (Batch.mk transform start (path :: paths)).StopsAt (stop + 1)) :
    (behind transform start path paths).StopsAt stop where
  within := Nat.le_of_succ_le_succ stops.within
  before := by
    intro index before
    rw [← failsAt_cons]
    exact stops.before (index + 1) (Nat.succ_lt_succ before)
  fails := by
    intro within
    rw [← failsAt_cons]
    exact stops.fails (Nat.succ_lt_succ within)

end

/-- There is a first file whose transform fails, or none. -/
theorem exists_stopsAt (batch : Batch) : ∃ stop, batch.StopsAt stop := by
  have some : ∃ stop, stop = batch.files.length ∨ batch.failsAt stop = true := ⟨_, Or.inl rfl⟩
  refine ⟨Nat.find some, Nat.find_min' some (Or.inl rfl), ?_, ?_⟩
  · intro index before
    exact Bool.eq_false_iff.2 fun fails => Nat.find_min some before (Or.inr fails)
  · intro within
    exact (Nat.find_spec some).resolve_left (Nat.ne_of_lt within)

/-- The command transforms the files before the first one that fails, and no others. Nothing fails
if there is none. -/
theorem transformEach_of_stopsAt {verbose several : Bool} {transform : Transform}
    {files : List Text} {progress : Progress} {batch : Batch}
    (same : batch = Batch.mk transform progress.standing files) (stops : batch.StopsAt stop)
    (taken : ∀ index < stop, batch.takesAt index = true) :
    let came := transformEach verbose true several transform files progress
    (came.1 = .ok () ↔ stop = files.length) ∧ came.2.around = (batch.standing stop).around := by
  subst same
  induction files generalizing progress stop with
  | nil =>
      obtain rfl : stop = 0 := Nat.le_zero.1 stops.within
      exact ⟨⟨fun _ => rfl, fun _ => rfl⟩, rfl⟩
  | cons path paths ih =>
      cases ran : (progress.standing.runOf transform path).result with
      | error fault =>
          obtain ⟨next, came, kept⟩ := @outcome_of_runOf_error verbose several _ _ _ _ ran
          obtain rfl : stop = 0 := by
            apply Nat.eq_zero_of_not_pos
            intro later
            have sound := stops.before 0 later
            rw [failsAt_zero_cons, ran] at sound
            cases sound
          simp only [transformEach, came]
          refine ⟨⟨?_, ?_⟩, kept⟩
          · intro done
            cases done
          · intro none
            cases none
      | ok result =>
          cases stop with
          | zero =>
              have fails := stops.fails (Nat.succ_pos _)
              rw [failsAt_zero_cons, ran] at fails
              cases fails
          | succ stop =>
              obtain ⟨next, came, standing⟩ :=
                @outcome_of_runOf_ok verbose several _ _ _ _ ran
                  (takes_of_takesAt_zero (taken 0 (Nat.succ_pos stop)) ran)
              have stops' := stopsAt_cons stops
              have taken' : ∀ index < stop,
                  (behind transform progress.standing path paths).takesAt index = true := by
                intro index before
                rw [← takesAt_cons]
                exact taken (index + 1) (Nat.succ_lt_succ before)
              rw [behind, ← standing] at stops' taken'
              obtain ⟨all, left⟩ := ih stops' taken'
              simp only [transformEach, came]
              refine ⟨all.trans (Nat.succ_inj).symm, left.trans ?_⟩
              rw [standing_cons, behind, standing]

end

end Batch

/-- When a process, whose directory is always an absolute one, transforms files in place, nothing is
changed and the status tells of a failure if the declared packages cannot be found out. Else the
files are transformed in order, each in the files that those before it left, and there is a first
one that fails or none. Suppose that what is to be written before it can be written. Then the status
is 0 exactly if none fails, everything to which nothing was written is as it was, and what was
written to is a file that was there before: it holds the code of the last result in which something
was replaced, which is never empty. -/
theorem transform_many_in_place {around : Surroundings} {arguments : List Text} {read : Arguments}
    {files : List Text} (inRoot : Path.isAbsolute around.process = true)
    (asked : readCommand arguments = .ok (.transform read files))
    (writes : read.has .write = true) :
    let outcome := run around arguments
    (∀ fault, Transform.make around (optionsOf read) none = .error fault →
      outcome.status ≠ .ok 0 ∧ outcome.store = around.store) ∧
    ∀ transform, Transform.make around (optionsOf read) none = .ok transform →
      let batch : Batch := { transform, start := { around }, files }
      (∃ stop, batch.StopsAt stop) ∧
      ∀ stop, batch.StopsAt stop → (∀ index < stop, batch.takesAt index = true) →
        (outcome.status = .ok 0 ↔ stop = files.length) ∧
        (∀ place, batch.Untouched stop place →
          outcome.store.at? place = around.store.at? place) ∧
        ∀ index place result, batch.WritesLast stop index place result →
          (∃ content, around.store.at? place = some (.file content)) ∧
          outcome.store.at? place = some (.file result.code.toUTF8) ∧
          0 < result.code.toUTF8.size := by
  intro outcome
  have performed : outcome = perform around (transformFiles read files) := by
    simp only [outcome, run, asked]
  rw [performed]
  constructor
  · intro fault failed
    have came : (transformFiles read files).outcome { around } = (.error fault, { around }) := by
      rw [outcome_transformFiles, outcome_makeTransform, failed]
    constructor
    · intro done
      obtain ⟨next, came', _⟩ := perform_eq_ok done
      rw [came] at came'
      cases came'
    · rw [store_perform, came]
  · intro transform made batch
    refine ⟨batch.exists_stopsAt, ?_⟩
    intro stop stops taken
    let lines := discoveryLog (optionsOf read).working transform.dependencies
    let discovered : Progress := told (shown (read.has .debug) lines) { around }
    let came := transformEach (read.has .debug) true (1 < files.length) transform files discovered
    have whole : (transformFiles read files).outcome { around } = came := by
      rw [outcome_transformFiles, outcome_makeTransform, made, writes]
    have same : batch = Batch.mk transform discovered.standing files := rfl
    obtain ⟨all, left⟩ : (came.1 = .ok () ↔ stop = files.length) ∧
        came.2.around = (batch.standing stop).around :=
      Batch.transformEach_of_stopsAt same stops taken
    have leaves := stops.leaves inRoot taken
    have store : (perform around (transformFiles read files)).store =
        (batch.standing stop).around.store := by
      rw [store_perform, whole, left]
    rw [store]
    refine ⟨?_, leaves.keeps, ?_⟩
    · rw [← all]
      constructor
      · intro done
        obtain ⟨next, came', _⟩ := perform_eq_ok done
        exact congrArg Prod.fst (whole.symm.trans came')
      · intro done
        exact status_perform (whole.trans (Prod.ext done rfl))
    · intro index place result last
      exact ⟨leaves.stood index last.within place result last.writes,
        leaves.holds index place result last, last.writes.size_pos⟩

/-!
### A file that is given twice, and one that is missing
-/

/-- The surroundings of a file whose one import has an alias for a module that has an alias again,
and of a file without aliases whose line ends in two characters. -/
def twiceAround : Surroundings where
  store :=
    { items :=
        [(["p"], .directory), (["p", "package.json"], .file "\x7b\x7d".toUTF8),
          (["p", "c.json"], .file
            "\x7b\"resolve\":\x7b\"alias\":\x7b\"l\":\"./m\",\"./m\":\"./n\"\x7d\x7d\x7d".toUTF8),
          (["p", "a.js"], .file "import 'l'\n".toUTF8),
          (["p", "b.js"], .file "import 'k'\r\n".toUTF8)] }
  process := "/p"
  environment := none
  evaluators :=
    { executable := "node"
      evaluate := fun _ _ => .noEvaluator
      importModule := fun _ => .error [] }
  parse := Script.Tree.ofSource

/-- The files of the command: the first one is given again, and the last one is missing. -/
def twiceFiles : List Text := ["a.js", "b.js", "./a.js", "c.js"]

/-- The command that transforms them in place. -/
def twiceArguments : List Text :=
  ["transform", "a.js", "b.js", "./a.js", "c.js", "-c", "c.json", "--write"]

/-- The arguments and the files of a command that transforms files. -/
def given? : Command → Option (Arguments × List Text)
  | .transform read files => some (read, files)
  | .resolve .. => none

/-- What the command line says. -/
def twiceRead : Arguments :=
  (((readCommand twiceArguments).toOption.bind given?).map Prod.fst).getD {}

theorem readCommand_twiceArguments :
    readCommand twiceArguments = .ok (.transform twiceRead twiceFiles) ∧
      twiceRead.has .write = true := by
  have said : ((readCommand twiceArguments).toOption.bind given?).map
      (fun given => (given.1.has .write, given.2)) = some (true, twiceFiles) := by decide +kernel
  obtain ⟨⟨read, files⟩, given, same⟩ := Option.map_eq_some_iff.1 said
  obtain ⟨writes, rfl⟩ := Prod.mk.inj same
  obtain ⟨command, asked, given'⟩ := Option.bind_eq_some_iff.1 given
  have here : read = twiceRead := by
    rw [twiceRead, given]
    rfl
  cases command with
  | resolve => cases given'
  | transform read' files =>
      cases given'
      exact ⟨here ▸ eq_ok_of_toOption asked, here ▸ writes⟩

namespace Batch

/-- What there is to tell of the file at a position: whether its transform fails, whether what is to
be written can be written, its place, and the code that is written there, if any is. -/
structure Account where
  fails : Bool
  takes : Bool
  place : Option Place
  code : Option String
deriving DecidableEq

/-- The account of the file at a position. -/
def account (batch : Batch) (index : Nat) : Account where
  fails := batch.failsAt index
  takes := batch.takesAt index
  place := batch.files[index]?.bind fun path =>
    (batch.start.around.store.follow batch.start.around.process path).toOption
  code := (batch.resultAt? index).bind fun came =>
    (came.toOption.filter Transform.Result.changed).map Transform.Result.code

theorem account_fails (batch : Batch) (index : Nat) :
    (batch.account index).fails = batch.failsAt index := rfl

theorem account_takes (batch : Batch) (index : Nat) :
    (batch.account index).takes = batch.takesAt index := rfl

section
variable {batch : Batch} {index : Nat} {place : Place} {result : Transform.Result} {code : String}

theorem account_of_writesTo (writes : batch.WritesTo index place result) :
    (batch.account index).place = some place ∧ (batch.account index).code = some result.code := by
  obtain ⟨path, known, followed⟩ := writes.leads
  simp [account, known, followed, writes.came, writes.changed, Except.toOption]

theorem exists_writesTo_of_account (leads : (batch.account index).place = some place)
    (coded : (batch.account index).code = some code) :
    ∃ result, batch.WritesTo index place result ∧ result.code = code := by
  obtain ⟨path, known, followed⟩ := Option.bind_eq_some_iff.1 leads
  obtain ⟨came, known', coded⟩ := Option.bind_eq_some_iff.1 coded
  obtain ⟨result, kept, rfl⟩ := Option.map_eq_some_iff.1 coded
  obtain ⟨ran, changed⟩ := Option.filter_eq_some_iff.1 kept
  refine ⟨result, ⟨⟨path, known, eq_ok_of_toOption followed⟩, ?_, changed⟩, rfl⟩
  rw [known', eq_ok_of_toOption ran]

end

end Batch

/-- The files that are given with the transform of the command. -/
def twiceBatch (transform : Transform) : Batch where
  transform
  start := { around := twiceAround }
  files := twiceFiles

/-- The accounts of the files of the command. -/
def twiceAccounts : List Batch.Account :=
  [{ fails := false, takes := true, place := some ["p", "a.js"], code := some "import './m'\n" },
    { fails := false, takes := true, place := some ["p", "b.js"], code := none },
    { fails := false, takes := true, place := some ["p", "a.js"], code := some "import './n'\n" },
    { fails := true, takes := true, place := some ["p", "c.js"], code := none }]

theorem twiceBatch_accounts :
    (Transform.make twiceAround (optionsOf twiceRead) none).toOption.map
        (fun transform => (List.range 4).map (twiceBatch transform).account) =
      some twiceAccounts := by
  decide +kernel

/-- The command ends at the missing file. The file that is given twice holds its second result, and
the file in which nothing is replaced is as it was. -/
theorem twiceArguments_stop_at_missing_file :
    let outcome := run twiceAround twiceArguments
    outcome.status ≠ .ok 0 ∧
      outcome.store.at? ["p", "b.js"] = twiceAround.store.at? ["p", "b.js"] ∧
      outcome.store.at? ["p", "a.js"] = some (.file "import './n'\n".toUTF8) := by
  intro outcome
  obtain ⟨transform, given, accounts⟩ := Option.map_eq_some_iff.1 twiceBatch_accounts
  have made : Transform.make twiceAround (optionsOf twiceRead) none = .ok transform :=
    eq_ok_of_toOption given
  obtain ⟨asked, writing⟩ := readCommand_twiceArguments
  have inRoot : Path.isAbsolute twiceAround.process = true := by decide +kernel
  obtain ⟨_, law⟩ := (transform_many_in_place inRoot asked writing).2 transform made
  let batch := twiceBatch transform
  have account (index : Nat) (within : index < 4) :
      some (batch.account index) = twiceAccounts[index]? := by
    rw [← accounts, List.getElem?_map, List.getElem?_range within]
    rfl
  have first : batch.account 0 =
      { fails := false, takes := true, place := some ["p", "a.js"],
        code := some "import './m'\n" } :=
    Option.some.inj (account 0 (by decide))
  have second : batch.account 1 =
      { fails := false, takes := true, place := some ["p", "b.js"], code := none } :=
    Option.some.inj (account 1 (by decide))
  have third : batch.account 2 =
      { fails := false, takes := true, place := some ["p", "a.js"],
        code := some "import './n'\n" } :=
    Option.some.inj (account 2 (by decide))
  have fourth : batch.account 3 =
      { fails := true, takes := true, place := some ["p", "c.js"], code := none } :=
    Option.some.inj (account 3 (by decide))
  have stops : batch.StopsAt 3 := by
    constructor
    · change 3 ≤ twiceFiles.length
      decide
    · intro index before
      rw [← Batch.account_fails]
      match index, before with
      | 0, _ => rw [first]
      | 1, _ => rw [second]
      | 2, _ => rw [third]
    · intro _
      rw [← Batch.account_fails, fourth]
  have taken : ∀ index < 3, batch.takesAt index = true := by
    intro index before
    rw [← Batch.account_takes]
    match index, before with
    | 0, _ => rw [first]
    | 1, _ => rw [second]
    | 2, _ => rw [third]
  have untouched : batch.Untouched 3 ["p", "b.js"] := by
    intro index before result writes
    obtain ⟨place, code⟩ := Batch.account_of_writesTo writes
    have known : index = 0 ∨ index = 1 ∨ index = 2 := by omega
    rcases known with rfl | rfl | rfl
    · rw [first] at place
      exact absurd place (by decide)
    · rw [second] at code
      cases code
    · rw [third] at place
      exact absurd place (by decide)
  have leads : (batch.account 2).place = some (["p", "a.js"] : Place) := by rw [third]
  have told : (batch.account 2).code = some "import './n'\n" := by rw [third]
  obtain ⟨result, writes, coded⟩ := Batch.exists_writesTo_of_account leads told
  have last : batch.WritesLast 3 2 ["p", "a.js"] result := by
    refine ⟨Nat.lt_succ_self 2, writes, ?_⟩
    intro later after before
    exact absurd before (Nat.not_lt_of_le after)
  obtain ⟨ended, keeps, holds⟩ := law 3 stops taken
  refine ⟨?_, keeps _ untouched, ?_⟩
  · intro done
    exact absurd (ended.1 done) (by decide)
  · rw [← coded]
    exact (holds 2 _ result last).2.1

end ModuleAlias.CommandLine
