/-
Module: ModuleAlias.Proofs.Configuration.Reports
Purpose: Which configurations and manifests that cannot be used are reported as such. What is not
  there, is no JSON or is no object is reported; what is not in UTF-8 or has an integer with too
  many digits is not, and neither is a list of aliases that is no object. Nothing else goes wrong.
Imports: ModuleAlias.Manifest, ModuleAlias.Proofs.Computation,
  ModuleAlias.Proofs.Configuration.Histories
Main exports: FileStore.Unreadable, Configuration.Unreported, Configuration.produce_error_cases,
  Provider.load_reports_iff, Manifest.read_reports_iff
-/
import ModuleAlias.Manifest
import ModuleAlias.Proofs.Computation
import ModuleAlias.Proofs.Configuration.Histories

namespace ModuleAlias

/-!
### Files of JSON
-/

namespace FileStore

/-- A file of JSON cannot be read, and not because it is no JSON: its bytes are not UTF-8, or an
integer in its text has too many digits. -/
inductive Unreadable (store : FileStore) (process path : Text) : Fault → Prop where
  | notUtf8 {content : ByteArray} (stored : store.readBytes process path = .ok content)
      (bytes : String.fromUTF8? content = none) : Unreadable store process path .notUtf8
  | integerTooLong {content : ByteArray} {text : String}
      (stored : store.readBytes process path = .ok content)
      (decoded : decodeText content = some text)
      (long : Json.read text.toList = .error .longInteger) :
      Unreadable store process path .integerTooLong

section
variable {store : FileStore} {process path : Text}

theorem readText_eq_ok_iff {text : String} :
    store.readText process path = .ok text ↔
      ∃ content, store.readBytes process path = .ok content ∧ decodeText content = some text := by
  unfold readText
  cases store.readBytes process path with
  | error fault => simp
  | ok content => cases decoded : decodeText content <;> simp [decoded]

theorem readText_eq_notUtf8_iff :
    store.readText process path = .error .notUtf8 ↔
      ∃ content, store.readBytes process path = .ok content ∧
        String.fromUTF8? content = none := by
  have undecoded (content : ByteArray) :
      decodeText content = none ↔ String.fromUTF8? content = none := Option.map_eq_none_iff
  unfold readText
  cases store.readBytes process path with
  | error fault => simp
  | ok content => cases decoded : decodeText content <;> simp [decoded, ← undecoded]

end

end FileStore

/-!
### Manifests
-/

namespace Manifest

section
variable {store : FileStore} {process path : Text} {fault : Fault}

/-- A manifest that cannot be used is reported, unless its file cannot be read. -/
theorem read_error_cases (failed : read store process path = .error fault) :
    (∃ place reason, fault.report? = some (.invalidManifest place reason)) ∨
      store.Unreadable process (Path.Plain.ofText path).toText fault := by
  unfold read at failed
  dsimp only at failed
  split at failed
  · cases failed
    exact Or.inl ⟨_, _, rfl⟩
  · rename_i undecoded
    cases failed
    obtain ⟨content, stored, bytes⟩ := FileStore.readText_eq_notUtf8_iff.1 undecoded
    exact Or.inr (.notUtf8 stored bytes)
  · rename_i text decoded
    split at failed
    · cases failed
      exact Or.inl ⟨_, _, rfl⟩
    · rename_i long
      cases failed
      obtain ⟨content, stored, decoded⟩ := FileStore.readText_eq_ok_iff.1 decoded
      exact Or.inr (.integerTooLong stored decoded long)
    · split at failed
      · cases failed
      · cases failed
        exact Or.inl ⟨_, _, rfl⟩

/-- A manifest whose file cannot be read ends in a fault that is not reported. -/
theorem read_of_unreadable
    (unreadable : store.Unreadable process (Path.Plain.ofText path).toText fault) :
    read store process path = .error fault ∧ fault.report? = none := by
  cases unreadable with
  | notUtf8 stored bytes =>
      have undecoded := FileStore.readText_eq_notUtf8_iff.2 ⟨_, stored, bytes⟩
      exact ⟨by simp only [read, undecoded], rfl⟩
  | integerTooLong stored decoded long =>
      have read' := FileStore.readText_eq_ok_iff.2 ⟨_, stored, decoded⟩
      exact ⟨by simp only [read, read', long], rfl⟩

/-- Reading a manifest gives the packages that it declares or is reported, exactly if the file can
be read. -/
theorem read_reports_iff :
    ((∃ dependencies, read store process path = .ok dependencies) ∨
        ∃ fault place reason, read store process path = .error fault ∧
          fault.report? = some (.invalidManifest place reason)) ↔
      ∀ fault, ¬ store.Unreadable process (Path.Plain.ofText path).toText fault := by
  have escapes (fault : Fault)
      (unreadable : store.Unreadable process (Path.Plain.ofText path).toText fault) :
      read store process path = .error fault ∧
        ¬ ∃ place reason, fault.report? = some (.invalidManifest place reason) := by
    obtain ⟨failed, silent⟩ := read_of_unreadable unreadable
    refine ⟨failed, ?_⟩
    rintro ⟨place, reason, reported⟩
    rw [silent] at reported
    cases reported
  have exactly := result_or_told_iff (fun _ failed => read_error_cases failed) escapes
  simpa only [exists_and_left] using exactly

end

end Manifest

/-!
### Configurations
-/

namespace Configuration

/-- How the configuration file at a path is read. -/
def formatAt (path : Text) : Option Format :=
  Format.ofSuffix? (Text.toLower (Path.Plain.ofText path).suffix)

/-- The aliases of an exported object are something that counts as true and is no object. -/
def MisshapenAliases (members : Members) : Prop :=
  ∃ resolve value, Members.get? members (Text.ofString "resolve") = some (.object resolve) ∧
    Members.get? resolve (Text.ofString "alias") = some value ∧ value.isTruthy = true ∧
    ∀ listed, value ≠ .object listed

/-- Why the configuration at a path cannot be used without this being reported: its file of JSON
cannot be read, or a script prints an integer with too many digits, or the aliases are no object. -/
inductive Unreported (around : Surroundings) (path : Text) (environment : Option Text) :
    Fault → Prop where
  | unreadable {fault : Fault} (format : formatAt path = some .json)
      (unreadable : around.store.Unreadable around.process path fault) :
      Unreported around path environment fault
  | printed {output : List Char} (format : formatAt path = some .script)
      (evaluated : around.evaluators.evaluate path environment = .printed output)
      (nonempty : output ≠ []) (long : Json.read output = .error .longInteger) :
      Unreported around path environment .integerTooLong
  | misshapen {members : Members}
      (exports : plainExport around path environment = .ok (.object members))
      (aliases : MisshapenAliases members) : Unreported around path environment .shape

section
variable {around : Surroundings} {path : Text} {environment : Option Text} {fault : Fault}

/-- The fault is reported as one of the configuration at a path. -/
def Reports (path : Text) (fault : Fault) : Prop :=
  ∃ reason, fault.report? = some (.configurationNotFound path reason)

theorem Unreported.report?_eq_none (unreported : Unreported around path environment fault) :
    fault.report? = none := by
  cases unreported with
  | unreadable format unreadable =>
      cases unreadable with
      | notUtf8 => rfl
      | integerTooLong => rfl
  | printed => rfl
  | misshapen => rfl

theorem readExport_error_cases {text : List Char} (failed : readExport path text = .error fault) :
    Reports path fault ∨ Json.read text = .error .longInteger ∧ fault = .integerTooLong := by
  unfold readExport at failed
  split at failed
  · cases failed
  · cases failed
    exact Or.inl ⟨_, rfl⟩
  · rename_i long
    cases failed
    exact Or.inr ⟨long, rfl⟩

theorem exported_error_cases (failed : exported around path environment = .error fault) :
    Reports path fault ∨ Unreported around path environment fault := by
  unfold exported at failed
  dsimp only at failed
  split at failed
  · cases failed
    exact Or.inl ⟨_, rfl⟩
  · rename_i format
    split at failed
    · rename_i text decoded
      obtain ⟨content, stored, decoded⟩ := FileStore.readText_eq_ok_iff.1 decoded
      rcases readExport_error_cases failed with reports | ⟨long, rfl⟩
      · exact Or.inl reports
      · exact Or.inr (.unreadable format (.integerTooLong stored decoded long))
    · cases failed
      exact Or.inl ⟨_, rfl⟩
    · rename_i undecoded
      cases failed
      obtain ⟨content, stored, bytes⟩ := FileStore.readText_eq_notUtf8_iff.1 undecoded
      exact Or.inr (.unreadable format (.notUtf8 stored bytes))
  · split at failed
    · cases failed
    · cases failed
      exact Or.inl ⟨_, rfl⟩
  · rename_i format
    split at failed
    · cases failed
      exact Or.inl ⟨_, rfl⟩
    · cases failed
      exact Or.inl ⟨_, rfl⟩
    · cases failed
    · rename_i output nonempty evaluated
      rcases readExport_error_cases failed with reports | ⟨long, rfl⟩
      · exact Or.inl reports
      · exact Or.inr (.printed format evaluated nonempty long)

theorem plainExport_error_cases (failed : plainExport around path environment = .error fault) :
    Reports path fault ∨ Unreported around path environment fault := by
  unfold plainExport at failed
  cases exports : exported around path environment with
  | error fault' =>
      rw [exports] at failed
      cases failed
      exact exported_error_cases exports
  | ok value =>
      rw [exports] at failed
      simp only [bind, Except.bind] at failed
      split at failed
      · cases failed
        exact Or.inl ⟨_, rfl⟩
      · cases failed
      · cases failed
        exact Or.inl ⟨_, rfl⟩

/-- What a configuration file exports in the end is an object. -/
theorem exists_members_of_plainExport {value : Value}
    (exports : plainExport around path environment = .ok value) :
    ∃ members, value = .object members := by
  obtain ⟨exported, _, normalized⟩ := exists_of_bind_eq_ok exports
  split at normalized
  · cases normalized
  · cases normalized
    exact ⟨_, rfl⟩
  · cases normalized

theorem aliasMembers_eq_error_iff {members : Members} :
    aliasMembers (.object members) = .error fault ↔
      fault = .shape ∧ MisshapenAliases members := by
  have member : (Value.object members).member? (Text.ofString "resolve") =
      Members.get? members (Text.ofString "resolve") := rfl
  constructor
  · intro failed
    unfold aliasMembers at failed
    rw [member] at failed
    split at failed
    · rename_i resolve isResolve
      split at failed
      · cases failed
      · rename_i value notObject isAlias
        split at failed
        · rename_i truthy
          cases failed
          refine ⟨rfl, resolve, value, isResolve, isAlias, truthy, ?_⟩
          rintro listed rfl
          exact notObject listed rfl
        · cases failed
      · cases failed
    · cases failed
  · rintro ⟨rfl, resolve, value, isResolve, isAlias, truthy, notObject⟩
    unfold aliasMembers
    rw [member, isResolve]
    dsimp only
    rw [isAlias]
    cases value with
    | object listed => exact absurd rfl (notObject listed)
    | _ => exact if_pos truthy

/-- A configuration that cannot be used is reported, unless it is for one of these reasons. -/
theorem produce_error_cases (failed : produce around path environment = .error fault) :
    Reports path fault ∨ Unreported around path environment fault := by
  unfold produce at failed
  cases exports : plainExport around path environment with
  | error fault' =>
      rw [exports] at failed
      cases failed
      exact plainExport_error_cases exports
  | ok value =>
      obtain ⟨members, rfl⟩ := exists_members_of_plainExport exports
      rw [exports] at failed
      cases listed : aliasMembers (.object members) with
      | error fault' =>
          obtain ⟨rfl, misshapen⟩ := aliasMembers_eq_error_iff.1 listed
          simp only [bind, Except.bind, ofValue, listed] at failed
          cases failed
          exact Or.inr (.misshapen exports misshapen)
      | ok aliases =>
          simp only [bind, Except.bind, ofValue, listed] at failed
          cases failed

/-- A configuration that cannot be used for one of these reasons ends in a fault of its own. -/
theorem produce_of_unreported (unreported : Unreported around path environment fault) :
    produce around path environment = .error fault := by
  have escapes (failed : exported around path environment = .error fault) :
      produce around path environment = .error fault := by
    simp only [produce, plainExport, failed, bind, Except.bind]
  cases unreported with
  | unreadable format unreadable =>
      apply escapes
      unfold formatAt at format
      cases unreadable with
      | notUtf8 stored bytes =>
          have undecoded := FileStore.readText_eq_notUtf8_iff.2 ⟨_, stored, bytes⟩
          simp only [exported, format, undecoded]
      | integerTooLong stored decoded long =>
          have read := FileStore.readText_eq_ok_iff.2 ⟨_, stored, decoded⟩
          simp only [exported, format, read, readExport, long]
  | printed format evaluated nonempty long =>
      apply escapes
      obtain ⟨first, rest, rfl⟩ := List.exists_cons_of_ne_nil nonempty
      unfold formatAt at format
      simp only [exported, format, evaluated, readExport, long]
  | misshapen exports misshapen =>
      have listed := aliasMembers_eq_error_iff.2 ⟨rfl, misshapen⟩
      simp only [produce, exports, bind, Except.bind, ofValue, listed]

end

end Configuration

/-!
### Requests
-/

namespace Provider

section
variable {provider : Provider} {around : Surroundings} {options : Configuration.Options}
  {fault : Fault}

/-- A request is for a configuration that is there and not remembered, and that cannot be used for a
reason that is not reported. -/
def Unreported (provider : Provider) (around : Surroundings) (options : Configuration.Options)
    (fault : Fault) : Prop :=
  ∃ key, keyOf around options = .ok key ∧ provider.remembered? key = none ∧
    Configuration.Unreported around key.path key.environment fault

/-- A request for a configuration that cannot be used is reported, unless it is for such a
reason. -/
theorem load_error_cases (failed : (provider.answer (load around options)).1 = .error fault) :
    (∃ path, Configuration.Reports path fault) ∨ provider.Unreported around options fault := by
  cases found : keyOf around options with
  | error fault' =>
      rw [answer_load_of_not_found found] at failed
      cases failed
      obtain ⟨path, reported⟩ := report?_of_keyOf_error found
      exact Or.inl ⟨path, none, reported⟩
  | ok key =>
      cases known : provider.remembered? key with
      | some configuration =>
          rw [answer_load_of_remembered found known] at failed
          cases failed
      | none =>
          rw [answered_of_unknown found known, unremembered_of_keyOf found] at failed
          rcases Configuration.produce_error_cases failed with reports | unreported
          · exact Or.inl ⟨key.path, reports⟩
          · exact Or.inr ⟨key, found, known, unreported⟩

theorem load_of_unreported (unreported : provider.Unreported around options fault) :
    (provider.answer (load around options)).1 = .error fault ∧ fault.report? = none := by
  obtain ⟨key, found, unknown, unreported⟩ := unreported
  rw [answered_of_unknown found unknown, unremembered_of_keyOf found]
  exact ⟨Configuration.produce_of_unreported unreported, unreported.report?_eq_none⟩

/-- A request for a configuration is answered or reported, exactly if there is no such reason. -/
theorem load_reports_iff :
    let answered := (provider.answer (load around options)).1
    ((∃ configuration, answered = .ok configuration) ∨
        ∃ fault path, answered = .error fault ∧ Configuration.Reports path fault) ↔
      ∀ fault, ¬ provider.Unreported around options fault := by
  intro answered
  have escapes (fault : Fault) (unreported : provider.Unreported around options fault) :
      answered = .error fault ∧ ¬ ∃ path, Configuration.Reports path fault := by
    obtain ⟨failed, silent⟩ := load_of_unreported unreported
    refine ⟨failed, ?_⟩
    rintro ⟨path, reason, reported⟩
    rw [silent] at reported
    cases reported
  have exactly := result_or_told_iff (fun _ failed => load_error_cases failed) escapes
  simpa only [exists_and_left] using exactly

end

end Provider

end ModuleAlias
