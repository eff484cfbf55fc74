/-
Module: ModuleAlias.CommandLine.Run
Purpose: Runs a command line on a store of files. What is printed and written until something fails
  stays printed and written. A fault that is reported to the user ends the run with status 1, a
  command line that is not understood with status 2.
Imports: ModuleAlias.CommandLine.Arguments, ModuleAlias.CommandLine.Log
Main exports: CommandLine.Session, CommandLine.Answer, CommandLine.Outcome, CommandLine.run
-/
import ModuleAlias.CommandLine.Arguments
import ModuleAlias.CommandLine.Log

namespace ModuleAlias.CommandLine

/-- How far a run has come: what it printed as its output and as messages, what is around it now,
and the configurations it has read. -/
structure Progress where
  output : Text := []
  messages : Text := []
  around : Surroundings
  provider : Provider := {}

/-- A part of a run. A failure keeps the progress that was made before it. -/
abbrev Session (α : Type) := ExceptT Fault (StateM Progress) α

namespace Session

/-- Prints to the output. -/
def print (text : Text) : Session Unit :=
  modify fun progress => { progress with output := progress.output ++ text }

/-- Prints a message. -/
def tell (text : Text) : Session Unit :=
  modify fun progress => { progress with messages := progress.messages ++ text }

/-- Prints the lines of a log that are shown. -/
def log (verbose : Bool) (lines : List LogLine) : Session Unit :=
  tell ((lines.filter (·.isShown verbose)).flatMap LogLine.render)

/-- Goes on with a result, or fails. -/
def settle {α : Type} (result : Except Fault α) : Session α := ExceptT.mk (pure result)

/-- Writes to a file. -/
def write (path : Text) (content : ByteArray) : Session Unit := do
  let around := (← get).around
  match around.store.overwrite around.process path content with
  | .ok store => modify fun progress => { progress with around := { around with store } }
  | .error fault => settle (.error (.access fault))

end Session

/-- The end of a line. -/
def lineEnd : Text := Text.ofChars ['\n']

/-- The options of a transform that a command line gives. -/
def optionsOf (read : Arguments) : Transform.Options where
  config := (read.value? .config).getD Configuration.defaultName
  search := read.has .search
  globalObject := (read.value? .globalObject).getD External.defaultGlobal
  working := read.value? .working
  environment := read.value? .environment

/-!
### Transforming files
-/

/-- The message about a replacement in a file. -/
def replacementMessage (path : Text) (replacement : Replacement) : Text :=
  placeText path replacement.line ++ replacement.specifier ++ Text.ofString " -> " ++
    replacement.text ++ lineEnd

/-- The output for a transformed file: a heading if there are several, and the code, whose last
line is ended. -/
def fileOutput (several : Bool) (path : Text) (code : String) : Text :=
  (if several then Text.ofString "// " ++ path ++ lineEnd else []) ++ Text.ofString code ++
    (if code.toList.getLast? = some '\n' then [] else lineEnd)

/-- Transforms one file, and prints or writes the result. -/
def transformFile (verbose write several : Bool) (transform : Transform) (path : Text) :
    Session Unit := do
  let { around, provider, .. } ← get
  let (text, filename) ← Session.settle (Transform.openFile around path)
  let run := transform.runSource around text filename provider
  Session.log verbose (runLog around transform.options text filename provider run)
  modify fun progress => { progress with provider := run.state }
  let result ← Session.settle run.result
  Session.tell (result.replacements.flatMap (replacementMessage path))
  if write then
    if result.changed then Session.write path result.code.toUTF8
  else
    Session.print (fileOutput several path result.code)

/-- Makes the transform of a command line; the declared packages are looked up first. -/
def makeTransform (verbose : Bool) (options : Transform.Options) : Session Transform := do
  let around := (← get).around
  let transform ← Session.settle (Transform.make around options none)
  Session.log verbose (discoveryLog options.working transform.dependencies)
  return transform

/-- Transforms files. -/
def transformFiles (read : Arguments) (files : List Text) : Session Unit := do
  let verbose := read.has .debug
  let transform ← makeTransform verbose (optionsOf read)
  for path in files do
    transformFile verbose (read.has .write) (1 < files.length) transform path

/-!
### Resolving a specifier
-/

/-- What is told about a specifier: how it is resolved, and where its module is found if it is
external. -/
structure Answer where
  resolution : Alias.Resolution
  external : Option External.Target
deriving DecidableEq, Repr

namespace Answer

/-- The answer for a specifier: of the names that a configuration may declare as external, the
target of the alias comes before the specifier itself. -/
def find (configuration : Configuration) (dependencies : Dependencies) (specifier : Text)
    (importer : Alias.Importer) : Answer :=
  let resolution := Alias.resolve configuration.aliases dependencies specifier importer
  { resolution
    external := resolution.found.bind fun found =>
      (configuration.externals.get? found.entry.target).or
        (configuration.externals.get? specifier) }

/-- The line about the match of a specifier. -/
def matchLine (found : Alias.Match) : Text :=
  Text.ofString "  alias: " ++ found.entry.name ++ Text.ofString " -> " ++ found.entry.target ++
    Text.ofString s!" ({found.kind.word})" ++ lineEnd

/-- The line about a module that is external, by its namespace and its property. -/
def externalLine (space key : Text) : Text :=
  Text.ofString "  external: " ++ space ++ Text.ofChars ['['] ++ key ++ Text.ofChars [']'] ++
    lineEnd

/-- The messages that tell an answer. -/
def messages (answer : Answer) : Text :=
  match answer.resolution.found with
  | none => Text.ofString "  no alias matched" ++ lineEnd
  | some found =>
    matchLine found ++
      match answer.external with
      | some target => externalLine target.space (target.lookupKey answer.resolution.requested)
      | none => []

end Answer

/-- Resolves a specifier as if a file imported it. -/
def resolveSpecifier (read : Arguments) (specifier file : Text) : Session Unit := do
  let verbose := read.has .debug
  let options := optionsOf read
  let { around, provider, .. } ← get
  let load := Provider.load around options.configuration
  let configuration ← Session.settle (provider.answer load).1
  Session.log verbose (loadLog around provider options.configuration)
  let dependencies ←
    Session.settle (Manifest.discover around.store around.process options.working)
  Session.log verbose (discoveryLog options.working dependencies)
  let importer := Alias.Importer.ofFile around.process file options.working
  let answer := Answer.find configuration dependencies specifier importer
  Session.log verbose (resolutionLog answer.resolution)
  Session.print (answer.resolution.specifier ++ lineEnd)
  Session.tell answer.messages

/-!
### Command lines
-/

/-- What came of a command line: the output, the messages, the status or the fault that ended the
run, and the files afterwards. -/
structure Outcome where
  output : Text
  messages : Text
  status : Except Fault Nat
  store : FileStore

/-- What comes of a command. -/
def perform (around : Surroundings) (session : Session Unit) : Outcome :=
  let (result, progress) := session.run.run { around }
  let outcome : Outcome :=
    { output := progress.output
      messages := progress.messages
      status := .ok 0
      store := progress.around.store }
  match result with
  | .ok () => outcome
  | .error fault =>
    match fault.report? with
    | some report =>
      { outcome with
        messages := outcome.messages ++ Text.ofString "Error: " ++ report.message ++ lineEnd
        status := .ok 1 }
    | none => { outcome with status := .error fault }

/-- What comes of a command line that ends before a command is run. -/
def endOf (around : Surroundings) : Ending → Outcome
  | .help parsing =>
    { output := Text.ofString (parsing.usage ++ parsing.help), messages := [], status := .ok 0,
      store := around.store }
  | .version =>
    { output := Text.ofString versionText, messages := [], status := .ok 0,
      store := around.store }
  | .misuse parsing message =>
    { output := [],
      messages := Text.ofString s!"{parsing.usage}{parsing.program}: error: " ++ message ++ lineEnd,
      status := .ok 2, store := around.store }

/-- Runs a command line. -/
def run (around : Surroundings) (arguments : List Text) : Outcome :=
  match readCommand arguments with
  | .error ending => endOf around ending
  | .ok (.transform read files) => perform around (transformFiles read files)
  | .ok (.resolve read specifier file) => perform around (resolveSpecifier read specifier file)

end ModuleAlias.CommandLine
