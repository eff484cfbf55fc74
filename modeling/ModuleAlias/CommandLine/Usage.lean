/-
Module: ModuleAlias.CommandLine.Usage
Purpose: The options and the help texts of the command line.
Imports: ModuleAlias.Text
Main exports: CommandLine.Setting, CommandLine.OptionSpec, CommandLine.Parsing,
  CommandLine.mainParsing, CommandLine.transformParsing, CommandLine.resolveParsing
-/
import ModuleAlias.Text

namespace ModuleAlias.CommandLine

/-- What an option settles. -/
inductive Setting where
  | help
  | version
  | config
  | search
  | working
  | environment
  | debug
  | globalObject
  | write
  | importingFile
deriving DecidableEq, Repr

/-- An option: its spellings, what it settles, whether it takes a value, and whether it has to be
given. -/
structure OptionSpec where
  spellings : List Text
  setting : Setting
  takesValue : Bool
  required : Bool := false

/-- How many positional arguments a command takes: one, at least one, or the name of a command with
everything that follows it. -/
inductive Positional where
  | one
  | some
  | command
deriving DecidableEq, Repr

/-- What a command line is parsed by: the name of the program, its usage, the help after the usage,
the options, and the positional arguments with their name. -/
structure Parsing where
  program : String
  usage : String
  help : String
  options : List OptionSpec
  positional : Positional
  positionalName : String
  positionalRequired : Bool

/-- An option from its spellings. -/
def option (spellings : List String) (setting : Setting) (takesValue : Bool)
    (required : Bool := false) : OptionSpec :=
  { spellings := spellings.map Text.ofString, setting, takesValue, required }

/-- The option that asks for help. -/
def helpOption : OptionSpec := option ["-h", "--help"] .help false

/-- The options that both commands have. -/
def sharedOptions : List OptionSpec :=
  [option ["-c", "--config"] .config true, option ["--find-config"] .search false,
    option ["--cwd"] .working true, option ["--env"] .environment true,
    option ["--debug"] .debug false]

/-- The version of the program. -/
def versionText : String := "importalias 1.0.0\n"

/-- The command line before the name of a command. -/
def mainParsing : Parsing where
  program := "importalias"
  usage := "usage: importalias [-h] [-v] <command> ...\n"
  help := "
Rewrite webpack-aliased import and require specifiers

positional arguments:
  <command>
    transform    Rewrite aliased imports in source files
    resolve      Show how a specifier resolves

options:
  -h, --help     show this help message and exit
  -v, --version  show program's version number and exit

Run 'importalias <command> --help' for more information on a command.
"
  options := [helpOption, option ["-v", "--version"] .version false]
  positional := .command
  positionalName := "<command>"
  positionalRequired := false

/-- The command line of the command that transforms files. -/
def transformParsing : Parsing where
  program := "importalias transform"
  usage := "usage: importalias transform [-h] [-c CONFIG] [--find-config] [--cwd CWD]
                             [--env ENV] [--debug]
                             [--global-object GLOBAL_OBJECT] [-w]
                             files [files ...]
"
  help := "
Rewrite import/require specifiers that match resolve.alias.

positional arguments:
  files                 JavaScript/TypeScript files

options:
  -h, --help            show this help message and exit
  -c CONFIG, --config CONFIG
                        Build configuration file (default: webpack.config.js)
  --find-config         Search parent directories for the configuration file
  --cwd CWD             Working directory for config lookup and relative
                        aliases (default: .)
  --env ENV             Environment name for function configs (default:
                        $NODE_ENV)
  --debug               Enable debug logging
  --global-object GLOBAL_OBJECT
                        Global holding externalized modules (default: window)
  -w, --write           Rewrite files in place instead of printing

Example: importalias transform src/app/main.js -c webpack.config.js
"
  options := helpOption :: sharedOptions ++
    [option ["--global-object"] .globalObject true, option ["-w", "--write"] .write false]
  positional := .some
  positionalName := "files"
  positionalRequired := true

/-- The command line of the command that resolves one specifier. -/
def resolveParsing : Parsing where
  program := "importalias resolve"
  usage := "usage: importalias resolve [-h] --from FROM_FILE [-c CONFIG] [--find-config]
                           [--cwd CWD] [--env ENV] [--debug]
                           specifier
"
  help := "
Resolve one specifier as if it were imported from a file.

positional arguments:
  specifier             Import specifier

options:
  -h, --help            show this help message and exit
  --from FROM_FILE      File the specifier is imported from
  -c CONFIG, --config CONFIG
                        Build configuration file (default: webpack.config.js)
  --find-config         Search parent directories for the configuration file
  --cwd CWD             Working directory for config lookup and relative
                        aliases (default: .)
  --env ENV             Environment name for function configs (default:
                        $NODE_ENV)
  --debug               Enable debug logging

Example: importalias resolve @lib/format --from src/app/main.js
"
  options := helpOption :: option ["--from"] .importingFile true true :: sharedOptions
  positional := .one
  positionalName := "specifier"
  positionalRequired := true

end ModuleAlias.CommandLine
