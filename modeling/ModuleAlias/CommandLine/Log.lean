/-
Module: ModuleAlias.CommandLine.Log
Purpose: The lines by which a run tells what it does. They are read off the results of the steps and
  do not influence them. Warnings are always shown, the rest only to a user who asks for it.
Imports: ModuleAlias.Transform, ModuleAlias.Value.Display
Main exports: CommandLine.LogLine, CommandLine.discoveryLog, CommandLine.loadLog,
  CommandLine.resolutionLog, CommandLine.runLog
-/
import ModuleAlias.Transform
import ModuleAlias.Value.Display

namespace ModuleAlias.CommandLine

/-- How important a line is. -/
inductive LogLevel where
  | debug
  | info
  | warning
deriving DecidableEq, Repr

/-- The word for a level. -/
def LogLevel.word : LogLevel → String
  | .debug => "DEBUG"
  | .info => "INFO"
  | .warning => "WARNING"

/-- The parts of the program that tell what they do. -/
inductive LogChannel where
  | configuration
  | dependencies
  | externals
  | resolution
  | replacement
deriving DecidableEq, Repr

/-- The name of a channel. -/
def LogChannel.name : LogChannel → String
  | .configuration => "importalias.config"
  | .dependencies => "importalias.dependencies"
  | .externals => "importalias.externals"
  | .resolution => "importalias.resolver"
  | .replacement => "importalias.rewriter"

/-- A line of the log. -/
structure LogLine where
  level : LogLevel
  channel : LogChannel
  message : Text
deriving DecidableEq, Repr

namespace LogLine

/-- Whether a line is shown; without the wish for all of them, only warnings are. -/
def isShown (verbose : Bool) (line : LogLine) : Bool := verbose || line.level == .warning

/-- A line as it is shown. -/
def render (line : LogLine) : Text :=
  Text.ofString s!"{line.level.word} {line.channel.name}: " ++ line.message ++ Text.ofChars ['\n']

end LogLine

/-- A number in decimal digits. -/
def numberText (number : Nat) : Text := Text.ofString (toString number)

/-!
### Manifests and configurations
-/

/-- The lines about a search for a manifest that began at a directory. -/
def discoveryLog (start : Option Text) (found : Dependencies) : List LogLine :=
  match found.manifest with
  | none =>
    let origin := start.getD (Text.ofString "None")
    [{ level := .warning, channel := .dependencies,
       message := Text.ofString "No package.json found from " ++ origin ++
         Text.ofString "; no package aliases" }]
  | some path =>
    [{ level := .debug, channel := .dependencies,
       message := Text.ofString "Loaded " ++ numberText found.names.length ++
         Text.ofString " dependency names from " ++ path }]

/-- A line about a member of a configuration that is left out. -/
def ignoredLine (channel : LogChannel) (kind : String) (name : Text) (value : Value) : LogLine where
  level := .debug
  channel
  message := Text.ofString s!"Ignoring {kind} " ++ Text.display name ++ Text.ofString " -> " ++
    Value.display value

/-- The lines about the members of an export that a configuration leaves out. -/
def ignoredLog (aliases externals : Members) : List LogLine :=
  ((Alias.Table.rejected aliases).map fun (name, value) =>
    ignoredLine .resolution "non-path alias" name value) ++
  (externals.filter fun (_, value) => (External.Target.ofValue? value).isNone).map
    fun (name, value) => ignoredLine .configuration "unsupported external" name value

/-- The line about a configuration that has been read. -/
def loadedLine (path : Text) (configuration : Configuration) : LogLine where
  level := .info
  channel := .configuration
  message := Text.ofString "Loaded " ++ path ++ Text.ofString ": " ++
    numberText configuration.aliases.entries.length ++ Text.ofString " aliases, " ++
    numberText configuration.externals.length ++ Text.ofString " externals"

/-- The lines about the reading of a configuration; none when that fails. -/
def productionLog (around : Surroundings) (path : Text) (environment : Option Text) :
    List LogLine :=
  let lines : Except Fault (List LogLine) := do
    let exported ← Configuration.plainExport around path environment
    let aliases ← Configuration.aliasMembers exported
    let configuration ← Configuration.ofValue exported (some path)
    return ignoredLog aliases (Configuration.externalMembers exported) ++
      [loadedLine path configuration]
  lines.toOption.getD []

/-- The lines about a request to a provider; none when the answer is remembered. -/
def loadLog (around : Surroundings) (provider : Provider) (options : Configuration.Options) :
    List LogLine :=
  match Provider.keyOf around options with
  | .error _ => []
  | .ok key =>
    if (provider.remembered? key).isSome then [] else productionLog around key.path key.environment

/-!
### Specifiers and nodes
-/

/-- The line about a specifier that an alias applies to. -/
def matchLine (specifier : Text) (found : Alias.Match) : LogLine where
  level := .debug
  channel := .resolution
  message := specifier ++ Text.ofString " -> " ++ found.specifier ++
    Text.ofString s!" ({found.kind.word} via " ++ Text.display found.entry.name ++
    Text.ofChars [')']

/-- The lines about the resolution of a specifier. -/
def resolutionLog (resolution : Alias.Resolution) : List LogLine :=
  resolution.found.toList.map (matchLine resolution.requested)

/-- The line about an import that becomes a look-up. -/
def externalLine (specifier : Text) (binding : External.Binding) : LogLine where
  level := .debug
  channel := .externals
  message := Text.ofString "Externalizing " ++ specifier ++ Text.ofString " as " ++
    binding.expression External.defaultGlobal

/-- The beginning of a line about a place in a file. -/
def placeText (filename : Text) (line : Nat) : Text :=
  filename ++ Text.ofChars [':'] ++ numberText line ++ Text.ofString ": "

/-- The line about a node that is left alone. -/
def skipLine (filename : Text) (line : Nat) (node : Script.Node)
    (reason : Replacement.SkipReason) : LogLine where
  level := .debug
  channel := .replacement
  message := placeText filename line ++
    Text.ofString s!"skipping {node.kind.word} ({reason.word})"

/-- The lines about a node that was decided about. -/
def visitLog (source : Script.Source) (filename : Text) (visited : Transform.Visited) :
    List LogLine :=
  match visited.outcome with
  | .skipped reason => [skipLine filename (source.lineAt visited.node.start) visited.node reason]
  | .kept specifier found => [matchLine specifier found]
  | .replaced specifier found replacement =>
    matchLine specifier found :: replacement.binding.toList.map (externalLine specifier)

/-- The line about a replacement that is about to be made. -/
def replacementLine (filename : Text) (replacement : Replacement) : LogLine where
  level := .info
  channel := .replacement
  message := placeText filename replacement.line ++ replacement.specifier ++
    Text.ofString " -> " ++ replacement.text

/-!
### Runs
-/

/-- The line about a file that could not be read in full. -/
def errorsLine (filename : Text) : LogLine where
  level := .warning
  channel := .replacement
  message := filename ++ Text.ofString ": parse errors, rewriting what could be parsed"

/-- Whether a run came to its end, so that it announced its replacements: it did when it has a
result, and when the only failure is that a replacement cannot be written. -/
def announces (result : Except Fault Transform.Result) : Bool :=
  match result with
  | .ok _ => true
  | .error .notEncodable => true
  | .error _ => false

/-- The lines about a run over a source, between the states of a provider before and after it. -/
def runLog (around : Surroundings) (options : Transform.Options) (text : String)
    (filename : Text) (before : Provider) (run : Transform.Run Provider) : List LogLine :=
  let source := Script.Source.ofString text
  let errors := if run.hasErrors then [errorsLine filename] else []
  let loads :=
    if before.cache.length < run.state.cache.length then
      loadLog around before options.configuration
    else []
  let visits := run.visited.flatMap (visitLog source filename)
  let announced :=
    if announces run.result then
      (Transform.replacementsOf run.visited).map (replacementLine filename)
    else []
  errors ++ loads ++ visits ++ announced

end ModuleAlias.CommandLine
