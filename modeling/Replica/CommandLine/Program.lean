import Replica.CommandLine.Copy
import Replica.CommandLine.Files
import Replica.CommandLine.Info
import Replica.CommandLine.Init
import Replica.CommandLine.Options
/-!
# The program

A command line has the general options, the name of a command, and what the command is told.
The general options come from the environment where they are not given.  A command line that
cannot be understood is answered with the first problem that it has.

* `Program.storageId`: the number of a storage, as it is given.
* `Program.run`: the program.
-/

namespace Replica.Program

/-! ## Values -/

/-- The number of a storage in decimal, or with the sign of another base in front. -/
def storageId (text : String) : Except String Int :=
  match Numeral.readLiteral text with
  | .ok n => .ok n
  | .error _ => .error (Text.quoted text ++ " is not a valid storage id")

/-! ## Commands and options -/

/-- The commands. -/
inductive CommandName where
  /-- Writes the settings. -/
  | init
  /-- Shows the device. -/
  | info
  /-- Lists the files. -/
  | files
  /-- Copies the device. -/
  | copy
deriving DecidableEq, Repr

/-- All commands, by their words. -/
def commands : List (String × CommandName) :=
  [("files", .files), ("info", .info), ("init", .init), ("mirror", .copy)]

/-- The general options. -/
inductive GeneralKey where
  /-- The address of the bridge. -/
  | url
  /-- The key. -/
  | key
  /-- Messages about progress are left out. -/
  | quiet
  /-- Only documents go to the standard output. -/
  | json
  /-- Everything is logged. -/
  | verbose
  /-- Which version of the program this is. -/
  | version
  /-- How the program is used. -/
  | help
deriving DecidableEq, Repr

/-- How the general options are written. -/
def generalOptions : List (Options.Known GeneralKey) :=
  [⟨.url, "--api-url", some 'u', true⟩, ⟨.key, "--api-key", some 'k', true⟩,
    ⟨.quiet, "--quiet", some 'q', false⟩, ⟨.json, "--json", none, false⟩,
    ⟨.verbose, "--verbose", some 'v', false⟩, ⟨.version, "--version", none, false⟩,
    ⟨.help, "--help", none, false⟩]

/-- The options of the commands. -/
inductive CommandKey where
  /-- The address of the bridge. -/
  | url
  /-- The key. -/
  | key
  /-- A storage. -/
  | storage
  /-- Abstract files are fetched too. -/
  | includeAbstract
  /-- How the command is used. -/
  | help
deriving DecidableEq, Repr

/-- How the options of a command are written. -/
def commandOptions (name : CommandName) : List (Options.Known CommandKey) :=
  let storage : Options.Known CommandKey := ⟨.storage, "--storage", some 's', true⟩
  let own : List (Options.Known CommandKey) :=
    match name with
    | .init => [⟨.url, "--api-url", some 'u', true⟩, ⟨.key, "--api-key", some 'k', true⟩]
    | .info => []
    | .files => [storage]
    | .copy => [storage, ⟨.includeAbstract, "--include-abstract", none, false⟩]
  own ++ [⟨.help, "--help", none, false⟩]

/-- How the program is used. -/
def usage : String :=
  "Usage: [OPTIONS] COMMAND [ARGS]...\n\n"
    ++ "Options:\n"
    ++ "  -u, --api-url TEXT  Device bridge API URL\n"
    ++ "  -k, --api-key TEXT  Device bridge API key\n"
    ++ "  -q, --quiet         Suppress non-essential output\n"
    ++ "  --json              Output in JSON format\n"
    ++ "  -v, --verbose       Enable verbose/debug logging output\n"
    ++ "  --version           Show the version and exit.\n"
    ++ "  --help              Show this message and exit.\n\n"
    ++ "Commands:\n"
    ++ "  files   List all files on the device with their details.\n"
    ++ "  info    Show the connected device and its storages.\n"
    ++ "  init    Initialize the configuration.\n"
    ++ "  mirror  Mirror the device into DESTINATION (default: current directory)."

/-- Which version of the program this is. -/
def version : String := "treemirror, version 0.1.0"

/-! ## Understanding a command line -/

/-- What a command line asks for. -/
inductive Task where
  /-- Nothing; the program says how it is used. -/
  | showUsage
  /-- Nothing; the program says which version it is. -/
  | showVersion
  /-- A command with its options and arguments. -/
  | command (name : CommandName) (told : Options.Parsed CommandKey)

/-- What general options ask for instead of a command, the first of them that asks for
something. -/
def askedInstead (p : Options.Parsed GeneralKey) : Option Task :=
  p.options.findSome? fun option =>
    match option.key with
    | .help => some .showUsage
    | .version => some .showVersion
    | _ => none

/-- There is no command of that name. -/
def unknownCommand (name : String) : UsageProblem :=
  .noSuchCommand name (Text.Resemblance.closest name (commands.map (·.1)))

/-- What the arguments after the general options ask for.  A name of no command that looks like
an option is looked at as one first. -/
def readTask : List String → Except UsageProblem Task
  | [] => .error .noCommand
  | name :: rest =>
    match commands.lookup name with
    | some found => do
      let told ← Options.parse (commandOptions found) true rest
      return if told.has .help then .showUsage else .command found told
    | none =>
      if Options.isOption name then
        match Options.parse generalOptions false (name :: rest) with
        | .error problem => .error problem
        | .ok p =>
          match askedInstead p with
          | some task => .ok task
          | none => .error (unknownCommand name)
      else .error (unknownCommand name)

/-- What the general options say, with the environment for what is not given. -/
def generalOf (e : Environment) (p : Options.Parsed GeneralKey) : General where
  url := (p.value? .url).or (Settings.given e.url)
  key := (p.value? .key).or (Settings.given e.key)
  console := ⟨p.has .json, p.has .quiet⟩
  verbose := p.has .verbose

/-- The numbers of the storages that a command is told. -/
def storagesOf (told : Options.Parsed CommandKey) : Except UsageProblem (List Int) :=
  (told.values .storage).mapM fun text =>
    match storageId text with
    | .ok n => .ok n
    | .error reason => .error (.invalidValue "'--storage' / '-s'" reason)

/-- Checks that no arguments are left. -/
def expectEnd : List String → Except UsageProblem PUnit
  | [] => .ok ⟨⟩
  | rest => .error (.extraArguments rest)

/-! ## Commands -/

variable {τ : Type}

/-- Refuses a command line. -/
def refuse (problem : UsageProblem) : Action (Session τ) ExitCode := do
  Console.writeLine .err ("Error: " ++ problem.message)
  return .usage

/-- Goes on with what could be understood. -/
def understood {α : Type} (result : Except UsageProblem α)
    (next : α → Action (Session τ) ExitCode) : Action (Session τ) ExitCode :=
  match result with
  | .ok a => next a
  | .error problem => refuse problem

/-- Goes on with the destination that the command is told; a file is none. -/
def withDestination (text : String) (next : Path → Action (Session τ) ExitCode) :
    Action (Session τ) ExitCode := do
  let path := Path.ofString text
  if ← Procedure.ofRequest path ((← Action.files).leadsToFile text) then
    refuse (.invalidValue "'[DESTINATION]'" ("Directory " ++ Text.quoted text ++ " is a file."))
  else next path

/-- Performs a command. -/
def perform (shell : Shell τ) (g : General) (name : CommandName)
    (told : Options.Parsed CommandKey) : Action (Session τ) ExitCode :=
  match name with
  | .info => understood (expectEnd told.arguments) fun _ => shell.info g
  | .files =>
    understood (storagesOf told) fun storages =>
      understood (expectEnd told.arguments) fun _ => shell.files g storages
  | .copy =>
    understood (storagesOf told) fun storages =>
      withDestination (told.arguments.headD ".") fun destination =>
        understood (expectEnd (told.arguments.drop 1)) fun _ =>
          shell.copy g ⟨destination, storages, told.has .includeAbstract⟩
  | .init => do
    match ← shell.agree ⟨told.value? .url, told.value? .key⟩ with
    | none => Shell.giveUp
    | some agreed =>
      understood (expectEnd told.arguments) fun _ => shell.check g.console agreed

/-- Performs what a command line asks for. -/
def performTask (shell : Shell τ) (g : General) : Task → Action (Session τ) ExitCode
  | .showUsage => do
    Console.writeLine .out usage
    return .success
  | .showVersion => do
    Console.writeLine .out version
    return .success
  | .command name told => perform shell g name told

/-- The end of the program. -/
structure Outcome where
  /-- The exit code. -/
  code : ExitCode
  /-- The failure that no command handled. -/
  failure : Option Failure

/-- The end of the program after a command. -/
def outcomeOf (result : Except Failure ExitCode) : Action (Session τ) Outcome := do
  match result with
  | .ok code => return ⟨code, none⟩
  | .error .interrupted =>
    Console.writeLine .err ""
    return ⟨← Shell.giveUp, none⟩
  | .error failure => return ⟨.failure, some failure⟩

/-- The general options of a command line, if they can be understood. -/
def readGeneral (e : Environment) (arguments : List String) :
    Except UsageProblem (General × Options.Parsed GeneralKey) :=
  (Options.parse generalOptions false arguments).map fun p => (generalOf e p, p)

/-- The least level of what is logged. -/
def logLevel (e : Environment) (arguments : List String) : Level :=
  match readGeneral e arguments with
  | .ok (g, _) => if g.verbose then .debug else .warning
  | .error _ => .warning

/-- Understands a command line and performs what it asks for. -/
def command (shell : Shell τ) (arguments : List String) : Action (Session τ) ExitCode :=
  if arguments.isEmpty then do
    Console.writeLine .err usage
    return .usage
  else
    understood (readGeneral shell.settings.environment arguments) fun (g, p) =>
      match askedInstead p with
      | some task => performTask shell g task
      | none => understood (readTask p.arguments) (performTask shell g)

/-- The program. -/
def run (shell : Shell τ) (arguments : List String) : Action (Session τ) Outcome := do
  outcomeOf (← Procedure.attempt (command shell arguments))

end Replica.Program
