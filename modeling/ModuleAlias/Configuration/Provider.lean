/-
Module: ModuleAlias.Configuration.Provider
Purpose: Finds, reads and remembers configurations. What a provider remembers is filed under the
  path of the file as it was found and the name of the environment; finding the file is done anew
  for every request, and a request that fails leaves the memory as it was.
Imports: ModuleAlias.Configuration, ModuleAlias.Configuration.Export, ModuleAlias.FileStore.Search,
  ModuleAlias.Script.Extent, ModuleAlias.Text.LowerCase
Main exports: Surroundings, Configuration.Options, Configuration.locate, Configuration.produce,
  Provider, Provider.Request, Provider.load, Provider.answer, Provider.clear
-/
import ModuleAlias.Configuration
import ModuleAlias.Configuration.Export
import ModuleAlias.FileStore.Search
import ModuleAlias.Script.Extent
import ModuleAlias.Text.LowerCase

namespace ModuleAlias

/-- What came of evaluating a configuration script: there was no program to do it, the program
failed with a first line of complaint, or it printed a text. -/
inductive Evaluation where
  | noEvaluator
  | failed (firstLine : Option Text)
  | printed (output : List Char)

/-- The programs that evaluate configurations which are themselves programs: one that is run with
the path and the environment name, and one that imports a module of definitions. They answer alike
each time they are asked. -/
structure Evaluators where
  executable : Text
  evaluate : Text → Option Text → Evaluation
  importModule : Text → Except Text Value

/-- What a run finds around it: the files, its directory, the name of the environment unless a
request gives one, the evaluators, and the parser of scripts. -/
structure Surroundings where
  store : FileStore
  process : Text
  environment : Option Text
  evaluators : Evaluators
  parse : Script.Parser

namespace Configuration

/-- The name of the configuration file unless another is given. -/
def defaultName : Text := Text.ofString "webpack.config.js"

/-- Which configuration is asked for: a file name or path, whether to look for it in the
directories above too, the working directory, and the name of the environment. -/
structure Options where
  name : Text := defaultName
  search : Bool := false
  working : Option Text := none
  environment : Option Text := none
deriving DecidableEq, Repr

namespace Options

/-- The name of the environment: the one given, or else the one around the run. -/
def environmentIn (options : Options) (around : Surroundings) : Option Text :=
  options.environment <|> around.environment

/-- The absolute working directory. -/
def directoryIn (options : Options) (around : Surroundings) : Text :=
  match options.working with
  | some (c :: cs) => Path.complete around.process (c :: cs)
  | _ => Path.complete around.process around.process

end Options

/-- The path of the configuration file that is asked for. A search gives the path as it was put
together; otherwise the path is absolute and without `..`. -/
def locate (around : Surroundings) (options : Options) : Except Fault Text :=
  let directory := options.directoryIn around
  if options.search then
    match around.store.searchUp around.process options.name (some directory) with
    | some found => .ok found.toText
    | none => .error (.configuration options.name none)
  else
    let path := (Path.Plain.ofText directory).combine (Path.Plain.ofText options.name)
    if around.store.isFile around.process path.toText then
      .ok (Path.Plain.resolve around.process path.toText).toText
    else .error (.configuration path.toText none)

/-- How a configuration file is read. -/
inductive Format where
  | json
  | definitions
  | script
deriving DecidableEq, Repr

/-- The format that the extension of a path, in small letters, calls for. -/
def Format.ofSuffix? (suffix : Text) : Option Format :=
  if suffix = Text.ofString ".json" then some .json
  else if suffix = Text.ofString ".py" then some .definitions
  else if ([".js", ".cjs", ".mjs"].map Text.ofString).contains suffix then some .script
  else none

/-- Reads a text as the export of a configuration file. -/
def readExport (path : Text) (text : List Char) : Except Fault Value :=
  match Json.read text with
  | .ok value => .ok value
  | .error (.fault fault) => .error (.configuration path (some (.json fault)))
  | .error .longInteger => .error .integerTooLong

/-- What the configuration file at a path exports. -/
def exported (around : Surroundings) (path : Text) (environment : Option Text) :
    Except Fault Value :=
  let suffix := Text.toLower (Path.Plain.ofText path).suffix
  match Format.ofSuffix? suffix with
  | none => .error (.configuration path (some (.unsupported suffix)))
  | some .json =>
    match around.store.readText around.process path with
    | .ok text => readExport path text.toList
    | .error (.access fault) => .error (.configuration path (some (.access fault path)))
    | .error .notUtf8 => .error .notUtf8
  | some .definitions =>
    match around.evaluators.importModule path with
    | .ok value => .ok value
    | .error cause => .error (.configuration path (some (.notImportable cause)))
  | some .script =>
    match around.evaluators.evaluate path environment with
    | .noEvaluator =>
      .error (.configuration path (some (.evaluatorMissing around.evaluators.executable)))
    | .failed firstLine => .error (.configuration path (some (.evaluatorFailed firstLine)))
    | .printed [] => .ok .null
    | .printed output => readExport path output

/-- The object that the configuration file at a path stands for. -/
def plainExport (around : Surroundings) (path : Text) (environment : Option Text) :
    Except Fault Value := do
  match normalizeExport (← exported around path environment) environment with
  | .null => throw (.configuration path (some .empty))
  | .object members => return .object members
  | value => throw (.configuration path (some (.notObject value.kindName)))

/-- Reads the configuration at a path, whatever has been read before. -/
def produce (around : Surroundings) (path : Text) (environment : Option Text) :
    Except Fault Configuration := do
  ofValue (← plainExport around path environment) (some path)

end Configuration

/-- What a configuration is filed under. -/
structure CacheKey where
  path : Text
  environment : Option Text
deriving DecidableEq, Repr

/-- A source of configurations that remembers the ones it has read, unless told not to. -/
structure Provider where
  remembers : Bool := true
  cache : List (CacheKey × Configuration) := []

namespace Provider

/-- The configuration remembered under a key. -/
def remembered? (provider : Provider) (key : CacheKey) : Option Configuration :=
  if provider.remembers then (provider.cache.find? fun filed => filed.1 == key).map (·.2)
  else none

/-- Files a configuration under a key. -/
def remember (provider : Provider) (key : CacheKey) (configuration : Configuration) : Provider :=
  if provider.remembers then
    { provider with
      cache := (key, configuration) :: provider.cache.filter fun filed => filed.1 != key }
  else provider

/-- The key of the configuration that is asked for. -/
def keyOf (around : Surroundings) (options : Configuration.Options) : Except Fault CacheKey := do
  return { path := ← Configuration.locate around options,
           environment := options.environmentIn around }

/-- A request to a provider: it has a result or fails, and leaves the provider in a new state in
either case. -/
abbrev Request (α : Type) := ExceptT Fault (StateM Provider) α

/-- Goes on with a result, or fails. -/
def settle {α : Type} (result : Except Fault α) : Request α := ExceptT.mk (pure result)

/-- The configuration that is asked for: the remembered one, or else one that is read now. -/
def load (around : Surroundings) (options : Configuration.Options) : Request Configuration := do
  let key ← settle (keyOf around options)
  match (← get).remembered? key with
  | some configuration => return configuration
  | none =>
    let configuration ← settle (Configuration.produce around key.path key.environment)
    modify fun provider => provider.remember key configuration
    return configuration

/-- What a provider answers to a request, and the provider afterwards. -/
def answer {α : Type} (provider : Provider) (request : Request α) : Except Fault α × Provider :=
  request.run.run provider

/-- Forgets everything. -/
def clear (provider : Provider) : Provider := { provider with cache := [] }

end Provider

end ModuleAlias
