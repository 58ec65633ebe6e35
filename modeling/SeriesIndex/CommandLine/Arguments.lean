import SeriesIndex.Tenant

/-!
# Arguments

A command line names one of three commands, with options before and after it. An option is long or
short; its value follows it as an argument of its own, or after an equals sign, or for a short one
right behind the letter. Two dashes end the options.
-/

namespace SeriesIndex.CommandLine

inductive OutputFormat where
  | table
  | json
deriving DecidableEq, Repr

inductive Command where
  | importLines (path : String) (time : Option UInt64)
  | search (selector start stop : String) (limit : Option UInt64) (format : OutputFormat)
  | config (output : Option String)
deriving DecidableEq, Repr

structure Invocation where
  command : Command
  configPath : Option String
  tenant : Tenant
deriving DecidableEq, Repr

/-- What a user asks to be told. -/
inductive Topic where
  | program
  | importLines
  | search
  | config
  | help
  | version
deriving DecidableEq, Repr

/-- Why a command line is none. -/
inductive UsageError where
  | unknownOption (argument : String)
  | noValue (option : String)
  | unexpectedValue (option : String)
  | repeated (option : String)
  | badValue (option value : String)
  | unexpected (argument : String)
  | unknownCommand (name : String)
  | noCommand
  | missing (argument : String)
deriving DecidableEq, Repr

def UsageError.message : UsageError → String
  | unknownOption argument | unexpected argument =>
      s!"error: unexpected argument '{argument}' found"
  | noValue option => s!"error: a value is required for '--{option}' but none was supplied"
  | unexpectedValue option => s!"error: unexpected value for '--{option}' found"
  | repeated option => s!"error: the argument '--{option}' cannot be used multiple times"
  | badValue option value => s!"error: invalid value '{value}' for '{option}'"
  | unknownCommand name => s!"error: unrecognized subcommand '{name}'"
  | noCommand => "error: a subcommand is required"
  | missing argument => s!"error: the argument '{argument}' was not provided"

/-- What keeps the command from being run: there is something to tell, or an error. -/
inductive Stop where
  | tell (topic : Topic)
  | fail (error : UsageError)
deriving DecidableEq, Repr

/-! ## Options -/

structure OptionName where
  long : String
  short : Option Char
deriving DecidableEq, Repr

/-- The options and the number of other arguments of a command. -/
structure Grammar where
  topic : Topic
  options : List OptionName
  arguments : Nat

/-- Options that may stand before and after the name of the command. -/
def commonOptions : List OptionName := [⟨"config", 'c'⟩, ⟨"tenant", 't'⟩]

def programGrammar : Grammar := ⟨.program, commonOptions, 0⟩

def importGrammar : Grammar := ⟨.importLines, ⟨"timestamp", none⟩ :: commonOptions, 1⟩

def searchGrammar : Grammar :=
  ⟨.search, [⟨"start", none⟩, ⟨"end", none⟩, ⟨"limit", 'l'⟩, ⟨"format", 'f'⟩] ++ commonOptions, 1⟩

def configGrammar : Grammar := ⟨.config, ⟨"output", 'o'⟩ :: commonOptions, 0⟩

/-- The values of options, and the other arguments in their order. -/
structure Given where
  values : List (String × String)
  arguments : List String

namespace Given

def nothing : Given := ⟨[], []⟩

def value? (given : Given) (option : String) : Option String :=
  (given.values.find? (·.1 == option)).map (·.2)

end Given

def word64? (text : String) : Option UInt64 := Text.Numeral.word64? text.toList

def format? : String → Option OutputFormat
  | "table" => some .table
  | "json" => some .json
  | _ => none

/-- The option takes the value. -/
def takes (option value : String) : Bool :=
  match option with
  | "timestamp" | "limit" => (word64? value).isSome
  | "format" => (format? value).isSome
  | "tenant" => (Tenant.parse value).toOption.isSome
  | "start" | "end" => true
  | _ => !value.isEmpty

/-- Gives an option its value, which it takes once. -/
def Given.set (given : Given) (option value : String) : Except Stop Given :=
  if (given.value? option).isSome then .error (.fail (.repeated option))
  else if !takes option value then .error (.fail (.badValue option value))
  else .ok { given with values := given.values ++ [(option, value)] }

/-- What an argument is, if options have not ended. -/
inductive Reading where
  | option (name : String) (value : Option String)
  | plain
  | dashes
deriving DecidableEq, Repr

/-- The text before an equals sign, and the one after it if there is one. -/
def splitValue (text : List Char) : String × Option String :=
  let name := String.ofList (text.takeWhile (· ≠ '='))
  match text.dropWhile (· ≠ '=') with
  | [] => (name, none)
  | _ :: value => (name, some (String.ofList value))

def readLong (grammar : Grammar) (text : List Char) : Except Stop Reading :=
  let (name, value) := splitValue text
  if grammar.options.any (·.long == name) then .ok (.option name value)
  else if name = "help" || (name = "version" && grammar.topic = .program) then
    if value.isSome then .error (.fail (.unexpectedValue name))
    else .error (.tell (if name = "help" then grammar.topic else .version))
  else .error (.fail (.unknownOption ("--" ++ String.ofList text)))

def readShort (grammar : Grammar) (letter : Char) (rest : List Char) : Except Stop Reading :=
  match grammar.options.find? (·.short == some letter) with
  | some option =>
      match rest with
      | [] => .ok (.option option.long none)
      | '=' :: value => .ok (.option option.long (some (String.ofList value)))
      | value => .ok (.option option.long (some (String.ofList value)))
  | none =>
      if letter = 'h' then .error (.tell grammar.topic)
      else if letter = 'V' && grammar.topic = .program then .error (.tell .version)
      else .error (.fail (.unknownOption (String.ofList ['-', letter])))

def readArgument (grammar : Grammar) (argument : String) : Except Stop Reading :=
  match argument.toList with
  | ['-', '-'] => .ok .dashes
  | '-' :: '-' :: text => readLong grammar text
  | '-' :: letter :: rest => readShort grammar letter rest
  | _ => .ok .plain

/-- Adds an argument that is no option. -/
def Given.add (given : Given) (grammar : Grammar) (argument : String) : Except Stop Given :=
  if grammar.arguments ≤ given.arguments.length then .error (.fail (.unexpected argument))
  else if grammar.topic = .importLines && argument.isEmpty then
    .error (.fail (.badValue "path" argument))
  else .ok { given with arguments := given.arguments ++ [argument] }

/-- Reads the arguments of a command. -/
def readAll (grammar : Grammar) (given : Given) : List String → Except Stop Given
  | [] => .ok given
  | argument :: rest =>
      match readArgument grammar argument with
      | .error stop => .error stop
      | .ok .dashes => rest.foldlM (fun given argument => given.add grammar argument) given
      | .ok .plain => do readAll grammar (← given.add grammar argument) rest
      | .ok (.option name (some value)) => do readAll grammar (← given.set name value) rest
      | .ok (.option name none) =>
          match rest with
          | [] => .error (.fail (.noValue name))
          | value :: later =>
              match readArgument grammar value with
              | .error stop => .error stop
              | .ok .plain => do readAll grammar (← given.set name value) later
              | .ok _ => .error (.fail (.noValue name))

/-- Reads the options before the name of a command; gives them, the name and what follows it. -/
def readUntilCommand (given : Given) : List String → Except Stop (Given × String × List String)
  | [] => .error (.fail .noCommand)
  | argument :: rest =>
      match readArgument programGrammar argument with
      | .error stop => .error stop
      | .ok .dashes => .error (.fail .noCommand)
      | .ok .plain => .ok (given, argument, rest)
      | .ok (.option name (some value)) => do readUntilCommand (← given.set name value) rest
      | .ok (.option name none) =>
          match rest with
          | [] => .error (.fail (.noValue name))
          | value :: later =>
              match readArgument programGrammar value with
              | .error stop => .error stop
              | .ok .plain => do readUntilCommand (← given.set name value) later
              | .ok _ => .error (.fail (.noValue name))

/-! ## Commands -/

/-- The single argument of a command. -/
def Given.argument (given : Given) (name : String) : Except Stop String :=
  match given.arguments with
  | [argument] => .ok argument
  | _ => .error (.fail (.missing name))

def Given.importCommand (given : Given) : Except Stop Command := do
  let path ← given.argument "<PATH>"
  return .importLines path ((given.value? "timestamp").bind word64?)

def Given.searchCommand (given : Given) : Except Stop Command := do
  let selector ← given.argument "<SELECTOR>"
  return .search selector ((given.value? "start").getD "now-1d") ((given.value? "end").getD "now")
    ((given.value? "limit").bind word64?) (((given.value? "format").bind format?).getD .table)

def Given.configCommand (given : Given) : Except Stop Command :=
  .ok (.config (given.value? "output"))

/-- The common options, of which those after the command win, with the tenant of all series
without one. -/
def invocation (before after : Given) (command : Command) : Invocation where
  command := command
  configPath := (after.value? "config").or (before.value? "config")
  tenant :=
    (((after.value? "tenant").or (before.value? "tenant")).bind
      fun text => (Tenant.parse text).toOption).getD ⟨0, 0⟩

def topic? : String → Option Topic
  | "import" => some .importLines
  | "search" => some .search
  | "config" => some .config
  | "help" => some .help
  | _ => none

/-- The topic of a request for help. -/
def readHelp : List String → Stop
  | [] => .tell .program
  | [name] =>
      match topic? name with
      | some topic => .tell topic
      | none => .fail (.unknownCommand name)
  | _ :: argument :: _ => .fail (.unexpected argument)

def parse (arguments : List String) : Except Stop Invocation := do
  let (before, name, rest) ← readUntilCommand .nothing arguments
  match name with
  | "import" =>
      let given ← readAll importGrammar .nothing rest
      return invocation before given (← given.importCommand)
  | "search" =>
      let given ← readAll searchGrammar .nothing rest
      return invocation before given (← given.searchCommand)
  | "config" =>
      let given ← readAll configGrammar .nothing rest
      return invocation before given (← given.configCommand)
  | "help" => throw (readHelp rest)
  | _ => throw (.fail (.unknownCommand name))

end SeriesIndex.CommandLine
