/-
Module: ModuleAlias.Transform
Purpose: Transforms whole sources: reads the syntax tree, visits its nodes, and applies the
  replacements. The configuration is asked for at each import and call that is visited, so a source
  without any needs no configuration.
Imports: ModuleAlias.Replacement.Decision, ModuleAlias.Replacement.Walk,
  ModuleAlias.Replacement.Splice, ModuleAlias.Configuration.Provider, ModuleAlias.Manifest
Main exports: Transform, Transform.Options, Transform.Run, Transform.runTree, Transform.runSource,
  Transform.openFile, Transform.runFile
-/
import ModuleAlias.Replacement.Decision
import ModuleAlias.Replacement.Walk
import ModuleAlias.Replacement.Splice
import ModuleAlias.Configuration.Provider
import ModuleAlias.Manifest

namespace ModuleAlias

open Script Replacement

/-- A source of configurations with a state: what a provider is, or a configuration that is at
hand. -/
abbrev ConfigurationSource (σ : Type) := σ → Except Fault Configuration × σ

namespace Transform

/-- What a transform is asked to do. -/
structure Options where
  config : Text := Configuration.defaultName
  search : Bool := false
  globalObject : Text := External.defaultGlobal
  working : Option Text := none
  environment : Option Text := none
deriving DecidableEq, Repr

namespace Options

/-- Which configuration the options ask for. -/
def configuration (options : Options) : Configuration.Options where
  name := options.config
  search := options.search
  working := options.working
  environment := options.environment

end Options

/-- A node that was decided about, and what became of it. -/
structure Visited where
  node : Node
  outcome : Outcome

/-- A transformed source. -/
structure Result where
  filename : Text
  code : String
  replacements : List Replacement

namespace Result

/-- Whether anything was replaced. -/
def changed (result : Result) : Bool := !result.replacements.isEmpty

end Result

/-- A run over one source: whether a part of it could not be read, the nodes that were decided
about, the state after it, and the result or the failure. -/
structure Run (σ : Type) where
  hasErrors : Bool
  visited : List Visited
  state : σ
  result : Except Fault Result

/-!
### Visits
-/

/-- What is found at an import or a call under a configuration. A replaced node is not descended
into. -/
def findingAt (task : Task) (configuration : Configuration) (place : Place) :
    Except Fault (Finding Visited) := do
  let outcome ← decide task configuration place.around place.node
  return {
    recorded := some { node := place.node, outcome }
    descends := outcome.replacement?.isNone }

/-- Visits a node: an import or a call asks for the configuration and is decided about. -/
def visit {σ : Type} (task : Task) (configurations : ConfigurationSource σ) (state : σ)
    (place : Place) : Visit σ Fault Visited :=
  if isCandidate place.node then
    let (configuration, state) := configurations state
    { state, finding := configuration.bind fun configuration =>
        findingAt task configuration place }
  else
    { state, finding := .ok { recorded := none, descends := true } }

/-- The replacements among the outcomes of a walk. -/
def replacementsOf (visited : List Visited) : List Replacement :=
  visited.filterMap fun visited => visited.outcome.replacement?

/-- The edit that a replacement asks for. -/
def editOf (replacement : Replacement) : Edit where
  start := replacement.start
  stop := replacement.stop
  text := replacement.text

/-- The bytes of a source with edits made. -/
def applyEdits (bytes : ByteArray) (edits : List Edit) : Except Fault ByteArray :=
  match Edit.applyAll bytes edits with
  | some result => .ok result
  | none => .error .notEncodable

/-- The text of a source with its replacements made. -/
def codeOf (source : Source) (replacements : List Replacement) : Except Fault String := do
  let bytes ← applyEdits source.bytes (replacements.map editOf)
  match String.fromUTF8? bytes with
  | some code => return code
  | none => throw .notUtf8

/-- A run over a source whose syntax tree is given. -/
def runTree {σ : Type} (task : Task) (configurations : ConfigurationSource σ) (filename : Text)
    (text : String) (tree : Tree text) (state : σ) : Run σ :=
  let walked := walk (visit task configurations) state tree.root
  let replacements := replacementsOf walked.recorded
  let result : Except Fault Result :=
    match walked.failure with
    | some failure => .error failure
    | none =>
      if replacements.isEmpty then .ok { filename, code := text, replacements }
      else do
        let code ← codeOf task.source replacements
        return { filename, code, replacements }
  { hasErrors := tree.hasErrors, visited := walked.recorded, state := walked.state, result }

/-- A run over a source whose configurations come from anywhere. -/
def runWith {σ : Type} (parse : Parser) (configurations : ConfigurationSource σ) (process : Text)
    (options : Options) (dependencies : Dependencies) (text : String) (filename : Text)
    (state : σ) : Run σ :=
  let task : Task :=
    { source := Source.ofString text
      importer := Alias.Importer.ofFile process filename options.working
      dependencies
      globalObject := options.globalObject }
  let tree := parse (Language.ofFilename filename) text
  runTree task configurations filename text tree state

end Transform

/-- A transform for many files: its options and the packages that count as declared. -/
structure Transform where
  options : Transform.Options
  dependencies : Dependencies

namespace Transform

/-- A transform. Unless they are given, the declared packages are those of the manifest nearest to
the working directory. -/
def make (around : Surroundings) (options : Options) (given : Option Dependencies) :
    Except Fault Transform := do
  match given with
  | some dependencies => return { options, dependencies }
  | none =>
    let dependencies ← Manifest.discover around.store around.process options.working
    return { options, dependencies }

/-- The configurations of a provider. -/
def configurationsOf (around : Surroundings) (options : Options) : ConfigurationSource Provider :=
  fun provider => provider.answer (Provider.load around options.configuration)

/-- A run over the text of a file. -/
def runSource (transform : Transform) (around : Surroundings) (text : String) (filename : Text)
    (provider : Provider) : Run Provider :=
  runWith around.parse (configurationsOf around transform.options) around.process
    transform.options transform.dependencies text filename provider

/-- The text of a file, and the absolute path by which the file is known. -/
def openFile (around : Surroundings) (path : Text) : Except Fault (String × Text) :=
  let plain := (Path.Plain.ofText path).toText
  match around.store.readText around.process plain with
  | .error (.access fault) => .error (.access fault)
  | .error .notUtf8 => .error .notUtf8
  | .ok text => .ok (text, Path.complete around.process plain)

/-- A run over a file. -/
def runFile (transform : Transform) (around : Surroundings) (path : Text) (provider : Provider) :
    Run Provider :=
  match openFile around path with
  | .error fault => { hasErrors := false, visited := [], state := provider, result := .error fault }
  | .ok (text, filename) => transform.runSource around text filename provider

end Transform

end ModuleAlias
