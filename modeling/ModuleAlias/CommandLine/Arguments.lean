/-
Module: ModuleAlias.CommandLine.Arguments
Purpose: Reads the arguments of a command line. An option may be shortened to a beginning that no
  other option shares, take its value after an equals sign, or, with one dash, directly; options of
  one dash without a value may be run together. After `--` nothing is an option. Arguments that
  nothing takes are collected, and refused at the end.
Imports: ModuleAlias.CommandLine.Usage, ModuleAlias.Literal.Digit, ModuleAlias.Text.Display
Main exports: CommandLine.Ending, CommandLine.Arguments, CommandLine.parse, CommandLine.Command,
  CommandLine.readCommand
-/
import ModuleAlias.CommandLine.Usage
import ModuleAlias.Literal.Digit
import ModuleAlias.Text.Display

namespace ModuleAlias.CommandLine

/-- How a command line ends before a command is run: it asks for help or for the version, or it
cannot be understood. -/
inductive Ending where
  | help (parsing : Parsing)
  | version
  | misuse (parsing : Parsing) (message : Text)

/-- What is attached to an option, and whether an equals sign stands before it. -/
structure Attachment where
  separated : Bool
  text : Text

/-- An option in a command line: which one it is, unless there is none of the kind, how it is
spelled, and what is attached to it. -/
structure OptionUse where
  option : Option OptionSpec
  spelling : Text
  attached : Option Attachment

/-- What an argument is: a plain word, the two dashes after which all are plain, or an option. -/
inductive ArgumentKind where
  | plain
  | dashes
  | option (use : OptionUse)

/-- An argument and what it is. -/
structure Argument where
  text : Text
  kind : ArgumentKind

/-!
### What an argument is
-/

/-- The dash. -/
def dash : CodePoint := .scalar '-'

/-- The two dashes. -/
def twoDashes : Text := [dash, dash]

/-- The equals sign. -/
def equalsSign : CodePoint := .scalar '='

/-- The option with a spelling. -/
def optionOf? (parsing : Parsing) (spelling : Text) : Option OptionSpec :=
  parsing.options.find? fun option => option.spellings.contains spelling

/-- A text before and after its first equals sign. -/
def splitAtEquals (text : Text) : Option (Text × Text) :=
  let before := text.takeWhile (· != equalsSign)
  match text.drop before.length with
  | _ :: after => some (before, after)
  | [] => none

/-- All spellings of all options, in order. -/
def allSpellings (parsing : Parsing) : List (Text × OptionSpec) :=
  parsing.options.flatMap fun option => option.spellings.map fun spelling => (spelling, option)

/-- The options that an argument with a dash may stand for without being spelled in full. -/
def candidates (parsing : Parsing) (text : Text) : List OptionUse :=
  if text.take 2 = twoDashes then
    let (beginning, attached) : Text × Option Attachment := match splitAtEquals text with
      | some (before, after) => (before, some { separated := true, text := after })
      | none => (text, none)
    (allSpellings parsing).filterMap fun (spelling, option) =>
      if beginning.isPrefixOf spelling then some { option := some option, spelling, attached }
      else none
  else
    (allSpellings parsing).filterMap fun (spelling, option) =>
      if spelling = text.take 2 then
        let attached : Attachment := { separated := false, text := text.drop 2 }
        some { option := some option, spelling, attached := some attached }
      else if text.isPrefixOf spelling then
        some { option := some option, spelling, attached := none }
      else none

/-- Whether a code point is a decimal digit of some script. -/
def isDigit : CodePoint → Bool
  | .scalar char => char.isDigit || (Literal.foreignDigit? char).isSome
  | .surrogate _ => false

/-- Whether a text with a dash reads as a negative number. -/
def isNegativeNumber (text : Text) : Bool :=
  let digits := text.drop 1
  let whole := digits.takeWhile isDigit
  match digits.drop whole.length with
  | [] => !whole.isEmpty
  | .scalar '.' :: fraction => !fraction.isEmpty && fraction.all isDigit
  | _ => false

/-- What an argument is, if it is not one of the two dashes and does not follow them. -/
def kindOf (parsing : Parsing) (text : Text) : Except Ending ArgumentKind :=
  match text with
  | [] => .ok .plain
  | first :: more =>
    if first ≠ dash then .ok .plain
    else
      match optionOf? parsing text with
      | some option => .ok (.option { option := some option, spelling := text, attached := none })
      | none =>
        if more.isEmpty then .ok .plain
        else
          let exact := (splitAtEquals text).bind fun (before, after) =>
            (optionOf? parsing before).map fun option =>
              let attached : Attachment := { separated := true, text := after }
              ({ option := some option, spelling := before, attached := some attached } : OptionUse)
          match exact with
          | some use => .ok (.option use)
          | none =>
            match candidates parsing text with
            | [use] => .ok (.option use)
            | [] =>
              if isNegativeNumber text || text.contains (.scalar ' ') then .ok .plain
              else .ok (.option { option := none, spelling := text, attached := none })
            | uses =>
              .error (.misuse parsing (Text.ofString "ambiguous option: " ++ text ++
                Text.ofString " could match " ++
                ((uses.map (·.spelling)).intersperse (Text.ofString ", ")).flatten))

/-- What the arguments of a command line are. -/
def classify (parsing : Parsing) : List Text → Except Ending (List Argument)
  | [] => .ok []
  | text :: texts =>
    if text = twoDashes then
      .ok ({ text, kind := .dashes } :: texts.map fun text => { text, kind := .plain })
    else do
      let kind ← kindOf parsing text
      return { text, kind } :: (← classify parsing texts)

/-!
### Taking arguments
-/

/-- What has been read of a command line. -/
structure Arguments where
  settings : List (Setting × Option Text) := []
  positionals : Option (List Text) := none
  left : List Text := []

/-- Whether an argument is an option. -/
def Argument.isOption (argument : Argument) : Bool :=
  match argument.kind with
  | .option _ => true
  | _ => false

/-- Whether an argument is the two dashes. -/
def Argument.isDashes (argument : Argument) : Bool :=
  match argument.kind with
  | .dashes => true
  | _ => false

/-- Whether an argument is a plain word. -/
def Argument.isPlain (argument : Argument) : Bool :=
  match argument.kind with
  | .plain => true
  | _ => false

/-- The number of arguments that the positional ones take from the beginning of a list, if they can
take any. -/
def positionalCount (positional : Positional) (arguments : List Argument) : Option Nat :=
  let leading := (arguments.takeWhile Argument.isDashes).length
  match arguments.drop leading with
  | first :: rest =>
    if first.isPlain then
      let more := match positional with
        | .one => (rest.takeWhile Argument.isDashes).length
        | .some => (rest.takeWhile fun argument => !argument.isOption).length
        | .command => rest.length
      some (leading + 1 + more)
    else none
  | [] => none

/-- The positional arguments without the two dashes among them; a command passes them on. -/
def positionalTexts (positional : Positional) (taken : List Argument) : List Text :=
  match positional with
  | .command => taken.map (·.text)
  | _ => (taken.map (·.text)).erase twoDashes

/-- The name of an option in a message. -/
def optionName (option : OptionSpec) : Text :=
  (option.spellings.intersperse (Text.ofChars ['/'])).flatten

/-- A complaint about an option. -/
def complaint (parsing : Parsing) (option : OptionSpec) (message : Text) : Ending :=
  .misuse parsing
    (Text.ofString "argument " ++ optionName option ++ Text.ofString ": " ++ message)

/-- Records an option, or ends where it asks for help or for the version. -/
def record (parsing : Parsing) (read : Arguments) (option : OptionSpec) (value : Option Text) :
    Except Ending Arguments :=
  match option.setting with
  | .help => .error (.help parsing)
  | .version => .error .version
  | setting => .ok { read with settings := read.settings ++ [(setting, value)] }

/-- A run of options in one argument: those that take no value, then either an option with what is
attached to it, or something that is no option. -/
structure OptionRun where
  leading : List OptionSpec
  last : Option (OptionSpec × Option Text)
  left : Option Text

namespace OptionRun

/-- A run of one option. -/
def one (option : OptionSpec) (attached : Option Text) : OptionRun :=
  { leading := [], last := some (option, attached), left := none }

/-- A run with an option before it. -/
def after (option : OptionSpec) (run : OptionRun) : OptionRun :=
  { run with leading := option :: run.leading }

end OptionRun

/-- A complaint about what is attached to an option that takes no value. -/
def attachmentComplaint (parsing : Parsing) (option : OptionSpec) (attached : Text) : Ending :=
  complaint parsing option (Text.ofString "ignored explicit argument " ++ Text.display attached)

/-- Reads what is attached to an option: its value, or, if it takes none, further options by their
letters, for which it must have one dash and no equals sign before them. -/
def readRun (parsing : Parsing) (oneDash separated : Bool) (option : OptionSpec) :
    Text → Except Ending OptionRun
  | [] =>
    if option.takesValue then .ok (.one option (some []))
    else .error (attachmentComplaint parsing option [])
  | letter :: rest =>
    if option.takesValue then .ok (.one option (some (letter :: rest)))
    else if !oneDash || separated || letter = dash then
      .error (attachmentComplaint parsing option (letter :: rest))
    else
      match optionOf? parsing [dash, letter], rest with
      | none, rest =>
        .ok { leading := [option], last := none, left := some (dash :: letter :: rest) }
      | some next, [] => .ok (.after option (.one next none))
      | some next, c :: more =>
        (if c = equalsSign then readRun parsing true true next more
          else readRun parsing true false next (c :: more)).map (.after option)

/-- The value of an option, attached or else following, and the arguments that follow then. -/
def valueOf (parsing : Parsing) (option : OptionSpec) (attached : Option Text)
    (following : List Argument) : Except Ending (Option Text × List Argument) :=
  if !option.takesValue then .ok (none, following)
  else
    match attached, following with
    | some value, following => .ok (some value, following)
    | none, value :: following =>
      if value.isPlain then .ok (some value.text, following)
      else .error (complaint parsing option (Text.ofString "expected one argument"))
    | none, [] => .error (complaint parsing option (Text.ofString "expected one argument"))

/-- Takes an option, further ones that run together with it, and the value that the last of them
needs. -/
def takeOption (parsing : Parsing) (read : Arguments) (text : Text) (use : OptionUse)
    (following : List Argument) : Except Ending (Arguments × List Argument) :=
  match use.option with
  | none => .ok ({ read with left := read.left ++ [text] }, following)
  | some option => do
    let run ← match use.attached with
      | some attached =>
        readRun parsing (use.spelling.take 2 ≠ twoDashes) attached.separated option attached.text
      | none => .ok (.one option none)
    let left := read.left ++ run.left.toList
    match run.last with
    | none =>
      let read ← run.leading.foldlM (fun read option => record parsing read option none) read
      return ({ read with left }, following)
    | some (last, attached) =>
      let (value, following) ← valueOf parsing last attached following
      let read ← run.leading.foldlM (fun read option => record parsing read option none) read
      return (← record parsing read last value, following)

/-- Takes the positional arguments from the beginning of a list, if they are still to come. -/
def takePositionals (parsing : Parsing) (read : Arguments) (arguments : List Argument) :
    Option (Arguments × List Argument) :=
  if read.positionals.isSome then none
  else
    (positionalCount parsing.positional arguments).map fun count =>
      let texts := positionalTexts parsing.positional (arguments.take count)
      ({ read with positionals := some texts }, arguments.drop count)

/-- Takes all arguments in turn. Positional arguments are taken once, in one run. -/
def takeAll (parsing : Parsing) : Nat → Arguments → List Argument → Except Ending Arguments
  | 0, read, _ => .ok read
  | fuel + 1, read, arguments =>
    if arguments.any Argument.isOption then
      match arguments with
      | { text, kind := .option use } :: following => do
        let (read, following) ← takeOption parsing read text use following
        takeAll parsing fuel read following
      | arguments =>
        match takePositionals parsing read arguments with
        | some (read, following) => takeAll parsing fuel read following
        | none =>
          let lead := arguments.takeWhile fun argument => !argument.isOption
          let read := { read with left := read.left ++ lead.map (·.text) }
          takeAll parsing fuel read (arguments.drop lead.length)
    else
      match takePositionals parsing read arguments with
      | some (read, following) => .ok { read with left := read.left ++ following.map (·.text) }
      | none => .ok { read with left := read.left ++ arguments.map (·.text) }

/-- The names of what is required and missing, in the order of declaration. -/
def missing (parsing : Parsing) (read : Arguments) : List Text :=
  let positional :=
    if parsing.positionalRequired && read.positionals.isNone then
      [Text.ofString parsing.positionalName]
    else []
  let options := parsing.options.filter fun option =>
    option.required && !read.settings.any fun setting => setting.1 == option.setting
  positional ++ options.map optionName

/-- Reads a command line. -/
def parse (parsing : Parsing) (texts : List Text) : Except Ending Arguments := do
  let arguments ← classify parsing texts
  let read ← takeAll parsing (arguments.length + 1) {} arguments
  match missing parsing read with
  | [] => return read
  | names =>
    throw (.misuse parsing (Text.ofString "the following arguments are required: " ++
      (names.intersperse (Text.ofString ", ")).flatten))

namespace Arguments

/-- The value last given for a setting. -/
def value? (read : Arguments) (setting : Setting) : Option Text :=
  (read.settings.reverse.find? fun given => given.1 == setting).bind (·.2)

/-- Whether a setting is given. -/
def has (read : Arguments) (setting : Setting) : Bool :=
  read.settings.any fun given => given.1 == setting

end Arguments

/-- A command: files to transform, or a specifier to resolve. -/
inductive Command where
  | transform (arguments : Arguments) (files : List Text)
  | resolve (arguments : Arguments) (specifier file : Text)

/-- Refuses arguments that nothing takes. -/
def refuseLeft (left : List Text) : Except Ending Unit :=
  match left with
  | [] => .ok ()
  | left =>
    .error (.misuse mainParsing (Text.ofString "unrecognized arguments: " ++
      (left.intersperse (Text.ofChars [' '])).flatten))

/-- Reads a whole command line. Without a command it asks for help. -/
def readCommand (texts : List Text) : Except Ending Command := do
  let outer ← parse mainParsing texts
  match outer.positionals with
  | some (name :: rest) =>
    if name = Text.ofString "transform" then
      let read ← parse transformParsing rest
      refuseLeft (outer.left ++ read.left)
      return .transform read (read.positionals.getD [])
    else if name = Text.ofString "resolve" then
      let read ← parse resolveParsing rest
      refuseLeft (outer.left ++ read.left)
      return .resolve read ((read.positionals.getD []).headD [])
        ((read.value? .importingFile).getD [])
    else
      throw (.misuse mainParsing (Text.ofString "argument <command>: invalid choice: " ++
        Text.display name ++ Text.ofString " (choose from 'transform', 'resolve')"))
  | _ =>
    refuseLeft outer.left
    throw (.help mainParsing)

end ModuleAlias.CommandLine
