/-
Module: ModuleAlias.Proofs.Configuration.Exports
Purpose: The forms in which a configuration may be exported. Around the plain object there may
  stand, from the inside out, a list that begins with it, a function of the environment name, the
  wrapper of an ES module and a module of definitions; each of the four may be left out. Exactly the
  exports of these forms are brought to the object, since each layer that is taken off leaves the
  layers inside it alone.
Imports: ModuleAlias.Configuration.Provider, ModuleAlias.Script.Tree
Main exports: Configuration.IsPlain, Configuration.Exports,
  Configuration.normalizeExport_of_exports, Configuration.exports_of_normalizeExport,
  Configuration.documented_exports_alike
-/
import ModuleAlias.Configuration.Provider
import ModuleAlias.Script.Tree

namespace ModuleAlias.Configuration

/-!
### Layers
-/

/-- A list that begins with a configuration, or the configuration itself. -/
inductive BeginsWith (first : Value) : Value → Prop where
  | itself : BeginsWith first first
  | list (others : List Value) : BeginsWith first (.list (first :: others))

/-- A function that returns a value for the environment name, or the value itself. -/
inductive Returns (environment : Option Text) (returned : Value) : Value → Prop where
  | itself : Returns environment returned returned
  | function {result : Option Text → Value} (called : result environment = returned) :
      Returns environment returned (.function result)

/-- The wrapper of an ES module whose default is a value, or the value itself. -/
inductive HasDefault (inner : Value) : Value → Prop where
  | itself : HasDefault inner inner
  | wrapper {members : Members} {mark : Value}
      (marked : Members.get? members (Text.ofString "__esModule") = some mark)
      (counts : mark.isTruthy = true)
      (held : Members.get? members (Text.ofString "default") = some inner) :
      HasDefault inner (.object members)

/-- A module that defines a value as its default, or without a default as `config`, or the value
itself. -/
inductive Defines (defined : Value) : Value → Prop where
  | itself : Defines defined defined
  | default {named : Members}
      (held : Members.get? named (Text.ofString "default") = some defined) :
      Defines defined (.definitions named)
  | config {named : Members}
      (none : Members.get? named (Text.ofString "default") = none)
      (held : Members.get? named (Text.ofString "config") = some defined) :
      Defines defined (.definitions named)

/-- An export of a value: the four layers around it, each of which may be left out. -/
def Exports (environment : Option Text) (value exported : Value) : Prop :=
  ∃ listed returned wrapped, BeginsWith value listed ∧ Returns environment listed returned ∧
    HasDefault returned wrapped ∧ Defines wrapped exported

/-- A value is the wrapper of an ES module: it says so, and has a default. -/
def IsWrapper (value : Value) : Prop :=
  ∃ mark inner, value.member? (Text.ofString "__esModule") = some mark ∧
    value.member? (Text.ofString "default") = some inner ∧
    mark.isTruthy = true ∧ inner.isTruthy = true

/-- A plain configuration: an object that has a member and is not itself a wrapper. -/
structure IsPlain (value : Value) : Prop where
  isObject : ∃ member members, value = .object (member :: members)
  notWrapper : ¬ IsWrapper value

/-!
### Taking the layers off
-/

theorem openWrapper_of_not_isWrapper {value : Value} (notWrapper : ¬ IsWrapper value) :
    openWrapper value = value := by
  unfold openWrapper
  split
  · rename_i mark inner marked held
    split
    · rename_i count
      rw [Bool.and_eq_true] at count
      exact absurd ⟨mark, inner, marked, held, count⟩ notWrapper
    · rfl
  · rfl

/-- What may stand inside the outer two layers: a plain configuration, a list that begins with it,
or a function. -/
inductive Inside (value : Value) : Value → Prop where
  | itself : Inside value value
  | list (others : List Value) : Inside value (.list (value :: others))
  | function (result : Option Text → Value) : Inside value (.function result)

section
variable {environment : Option Text} {value listed returned wrapped exported : Value}

theorem inside_of_returns (begins : BeginsWith value listed)
    (returns : Returns environment listed returned) : Inside value returned := by
  cases returns with
  | function => exact .function _
  | itself =>
      cases begins with
      | itself => exact .itself
      | list others => exact .list others

section
variable (plain : IsPlain value)

include plain

theorem firstOfList_of_beginsWith (begins : BeginsWith value listed) :
    firstOfList listed = value := by
  cases begins with
  | list => rfl
  | itself =>
      obtain ⟨⟨member, members, rfl⟩, _⟩ := plain
      rfl

theorem callFunction_of_returns (begins : BeginsWith value listed)
    (returns : Returns environment listed returned) :
    callFunction environment returned = listed := by
  cases returns with
  | function called => exact called
  | itself =>
      cases begins with
      | list => rfl
      | itself =>
          obtain ⟨⟨member, members, rfl⟩, _⟩ := plain
          rfl

/-- What stands inside a wrapper counts as true, so that the wrapper is one. -/
theorem Inside.isTruthy (inside : Inside value returned) : returned.isTruthy = true := by
  cases inside with
  | list => rfl
  | function => rfl
  | itself =>
      obtain ⟨⟨member, members, rfl⟩, _⟩ := plain
      rfl

/-- What stands inside a wrapper is not a wrapper. -/
theorem Inside.openWrapper_eq (inside : Inside value returned) :
    openWrapper returned = returned := by
  cases inside with
  | list => rfl
  | function => rfl
  | itself => exact openWrapper_of_not_isWrapper plain.notWrapper

theorem openWrapper_of_hasDefault (inside : Inside value returned)
    (default : HasDefault returned wrapped) : openWrapper wrapped = returned := by
  cases default with
  | itself => exact inside.openWrapper_eq plain
  | wrapper marked counts held =>
      simp [openWrapper, Value.member?, marked, held, counts, inside.isTruthy plain]

theorem openModule_of_defines (inside : Inside value returned)
    (default : HasDefault returned wrapped) (defines : Defines wrapped exported) :
    openModule exported = wrapped := by
  cases defines with
  | default held => simp [openModule, held]
  | config none held => simp [openModule, none, held]
  | itself =>
      cases default with
      | wrapper => rfl
      | itself =>
          cases inside with
          | list => rfl
          | function => rfl
          | itself =>
              obtain ⟨⟨member, members, rfl⟩, _⟩ := plain
              rfl

/-- All layers around a plain configuration are taken off. -/
theorem normalizeExport_of_exports (exports : Exports environment value exported) :
    normalizeExport exported environment = value := by
  obtain ⟨listed, returned, wrapped, begins, returns, default, defines⟩ := exports
  have inside := inside_of_returns begins returns
  rw [normalizeExport, openModule_of_defines plain inside default defines,
    openWrapper_of_hasDefault plain inside default, callFunction_of_returns plain begins returns,
    firstOfList_of_beginsWith plain begins]

end

/-!
### No other forms

Whatever is taken off is one of the layers.
-/

theorem beginsWith_firstOfList (listed : Value) : BeginsWith (firstOfList listed) listed := by
  unfold firstOfList
  split
  · exact .list _
  · exact .itself

theorem returns_callFunction (environment : Option Text) (returned : Value) :
    Returns environment (callFunction environment returned) returned := by
  unfold callFunction
  split
  · exact .function rfl
  · exact .itself

theorem hasDefault_openWrapper (wrapped : Value) : HasDefault (openWrapper wrapped) wrapped := by
  unfold openWrapper
  split
  · rename_i mark inner marked held
    split
    · rename_i counts
      rw [Bool.and_eq_true] at counts
      cases wrapped with
      | object members => exact .wrapper marked counts.1 held
      | _ => cases marked
    · exact .itself
  · exact .itself

/-- A module that defines neither stands for null. -/
theorem defines_openModule_or_eq_null (exported : Value) :
    Defines (openModule exported) exported ∨ openModule exported = .null := by
  unfold openModule
  split
  · rename_i named
    split
    · rename_i held
      exact Or.inl (.default held)
    · rename_i none
      cases held : Members.get? named (Text.ofString "config") with
      | none => exact Or.inr rfl
      | some value => exact Or.inl (.config none held)
  · exact Or.inl .itself

/-- What is brought to a plain configuration is an export of it. -/
theorem exports_of_normalizeExport (plain : IsPlain value)
    (normal : normalizeExport exported environment = value) :
    Exports environment value exported := by
  rcases defines_openModule_or_eq_null exported with defines | none
  · refine ⟨_, _, _, ?_, returns_callFunction environment _, hasDefault_openWrapper _, defines⟩
    exact normal ▸ beginsWith_firstOfList _
  · rw [normalizeExport, none] at normal
    obtain ⟨⟨member, members, rfl⟩, _⟩ := plain
    cases normal

/-- A file that exports a plain configuration in any form is read as the configuration. -/
theorem produce_of_exports (plain : IsPlain value) {around : Surroundings} {path : Text}
    (read : Configuration.exported around path environment = .ok exported)
    (exports : Exports environment value exported) :
    produce around path environment = ofValue value (some path) := by
  have normal := normalizeExport_of_exports plain exports
  obtain ⟨⟨member, members, rfl⟩, _⟩ := plain
  rw [produce, plainExport, read]
  simp only [bind, Except.bind, normal]
  rfl

end

/-- Exactly the exports of a plain configuration, in whatever layers, are brought to it. So every
form gives the same aliases and external modules, and so does every file that exports one of the
forms. -/
theorem documented_exports_alike {value : Value} (plain : IsPlain value)
    (environment : Option Text) :
    (∀ exported, Exports environment value exported ↔
        normalizeExport exported environment = value) ∧
      ∀ exported, Exports environment value exported →
        (∀ path, ofValue (normalizeExport exported environment) path = ofValue value path) ∧
        ∀ around path, Configuration.exported around path environment = .ok exported →
          produce around path environment = ofValue value (some path) := by
  refine ⟨fun exported => ⟨?_, ?_⟩, fun exported exports => ⟨?_, ?_⟩⟩
  · exact normalizeExport_of_exports plain
  · exact exports_of_normalizeExport plain
  · intro path
    rw [normalizeExport_of_exports plain exports]
  · intro around path read
    exact produce_of_exports plain read exports

/-- A plain configuration with one alias. -/
def plainConfiguration : Value :=
  .object [("resolve", .object [("alias", .object [("l", .text "./m")])])]

/-- The configuration in all layers, each beside something else. -/
def layeredExport : Value :=
  .definitions [("config", .null), ("default", .object [("name", .null),
    ("__esModule", .boolean true), ("default", .function fun environment =>
      if environment = some "production" then .list [plainConfiguration, .null] else .null)])]

/-- Surroundings in which a module of definitions exports the configuration in all layers. -/
def layeredAround : Surroundings where
  store := FileStore.empty
  process := "/p"
  environment := none
  evaluators :=
    { executable := "node"
      evaluate := fun _ _ => .noEvaluator
      importModule := fun _ => .ok layeredExport }
  parse := Script.Tree.ofSource

/-- All layers are taken off, and the file is read as the configuration. -/
theorem layered_export_is_read :
    normalizeExport layeredExport (some "production") = plainConfiguration ∧
      produce layeredAround "/p/c.py" (some "production") =
        .ok { aliases := { entries := [{ name := "l", target := "./m", exact := false }] }
              externals := []
              path := some "/p/c.py" } := by
  have plain : IsPlain plainConfiguration := by
    refine ⟨⟨_, _, rfl⟩, ?_⟩
    rintro ⟨mark, _, marked, _⟩
    have unmarked : plainConfiguration.member? (Text.ofString "__esModule") = none := rfl
    rw [unmarked] at marked
    cases marked
  have exports : Exports (some "production") plainConfiguration layeredExport :=
    ⟨_, _, _, .list [.null], .function rfl, .wrapper rfl rfl rfl, .default rfl⟩
  obtain ⟨normal, reads⟩ := documented_exports_alike plain (some "production")
  exact ⟨(normal layeredExport).1 exports,
    ((reads layeredExport exports).2 layeredAround "/p/c.py" rfl).trans rfl⟩

end ModuleAlias.Configuration
