import Replica.Text.Quoted
import Replica.Text.Resemblance
/-!
# Options on a command line

An option has a long name after two dashes and may have a letter after one.  A long option takes
its value from behind an equals sign or from the next argument; letters may be strung together,
and a letter takes its value from what follows it or from the next argument.  Two dashes alone
end the options.

* `Options.parse`: the options and the other arguments of a command line.
* `UsageProblem.message`: what is wrong with a command line.
-/

namespace Replica

/-- What is wrong with a command line. -/
inductive UsageProblem where
  /-- There is no option of this name; others have similar ones. -/
  | noSuchOption (name : String) (similar : List String)
  /-- The option has no value. -/
  | needsValue (name : String)
  /-- The option has a value and takes none. -/
  | takesNoValue (name : String)
  /-- There is no command of this name; others have similar ones. -/
  | noSuchCommand (name : String) (similar : List String)
  /-- No command is given. -/
  | noCommand
  /-- There are more arguments than the command takes. -/
  | extraArguments (arguments : List String)
  /-- The value of a parameter cannot be used. -/
  | invalidValue (parameter reason : String)
deriving DecidableEq, Repr

/-- The question whether one of these names was meant. -/
def UsageProblem.proposal : List String → String
  | [] => ""
  | [name] => " Did you mean " ++ Text.quoted name ++ "?"
  | names => " (Did you mean one of: " ++ ", ".intercalate (names.map Text.quoted) ++ "?)"

/-- The problem in words. -/
def UsageProblem.message : UsageProblem → String
  | noSuchOption name similar =>
    "No such option " ++ Text.quoted name ++ "." ++ proposal similar
  | needsValue name => "Option " ++ Text.quoted name ++ " requires an argument."
  | takesNoValue name => "Option " ++ Text.quoted name ++ " does not take a value."
  | noSuchCommand name similar =>
    "No such command " ++ Text.quoted name ++ "." ++ proposal similar
  | noCommand => "Missing command."
  | extraArguments arguments =>
    "Got unexpected extra argument" ++ (if arguments.length = 1 then "" else "s") ++ " ("
      ++ " ".intercalate arguments ++ ")"
  | invalidValue parameter reason => "Invalid value for " ++ parameter ++ ": " ++ reason

namespace Options

/-- An option that a command knows; `κ` tells its options apart. -/
structure Known (κ : Type) where
  /-- Which option it is. -/
  key : κ
  /-- Its long name, with the dashes. -/
  long : String
  /-- Its letter, if it has one. -/
  letter : Option Char
  /-- Whether it takes a value. -/
  takesValue : Bool

/-- An option on a command line, with its value; the value of one that takes none is empty. -/
structure Given (κ : Type) where
  /-- Which option it is. -/
  key : κ
  /-- Its value. -/
  value : String

/-- What a command line says. -/
structure Parsed (κ : Type) where
  /-- The options, in order. -/
  options : List (Given κ)
  /-- The other arguments, in order. -/
  arguments : List String

/-- An option whose value is the next argument. -/
structure Pending (κ : Type) where
  /-- Which option it is. -/
  key : κ
  /-- How it is written. -/
  name : String

/-- What one argument says: options, and maybe one whose value is still to come. -/
structure Reading (κ : Type) where
  /-- The options. -/
  options : List (Given κ)
  /-- The option that waits for its value. -/
  pending : Option (Pending κ) := none

variable {κ : Type}

/-- Whether an argument is an option. -/
def isOption (argument : String) : Bool :=
  match argument.toList with
  | '-' :: _ :: _ => true
  | _ => false

/-- Reads letters behind a dash. -/
def readLetters (known : List (Known κ)) : List Char → Except UsageProblem (Reading κ)
  | [] => .ok ⟨[], none⟩
  | c :: rest =>
    let name := String.ofList ['-', c]
    match known.find? fun k => k.letter = some c with
    | none => .error (.noSuchOption name [])
    | some option =>
      if option.takesValue then
        if rest.isEmpty then .ok ⟨[], some ⟨option.key, name⟩⟩
        else .ok ⟨[⟨option.key, String.ofList rest⟩], none⟩
      else
        match readLetters known rest with
        | .ok reading => .ok { reading with options := ⟨option.key, ""⟩ :: reading.options }
        | .error problem => .error problem

/-- The name of a long option and the value behind its equals sign. -/
def splitValue (argument : List Char) : List Char × Option (List Char) :=
  match argument.dropWhile (· ≠ '=') with
  | [] => (argument, none)
  | _ :: value => (argument.takeWhile (· ≠ '='), some value)

/-- Reads one option. -/
def readOption (known : List (Known κ)) (argument : String) :
    Except UsageProblem (Reading κ) :=
  let (name, value?) := splitValue argument.toList
  match known.find? fun k => k.long.toList = name, value? with
  | some option, some value =>
    if option.takesValue then .ok ⟨[⟨option.key, String.ofList value⟩], none⟩
    else .error (.takesNoValue option.long)
  | some option, none =>
    if option.takesValue then .ok ⟨[], some ⟨option.key, option.long⟩⟩
    else .ok ⟨[⟨option.key, ""⟩], none⟩
  | none, _ =>
    if "--".toList.isPrefixOf argument.toList then
      let name := String.ofList name
      .error (.noSuchOption name (Text.Resemblance.closest name (known.map (·.long))))
    else readLetters known (argument.toList.drop 1)

/-- Adds options in front. -/
def Parsed.addOptions (options : List (Given κ)) (p : Parsed κ) : Parsed κ :=
  { p with options := options ++ p.options }

/-- Adds an argument in front. -/
def Parsed.addArgument (argument : String) (p : Parsed κ) : Parsed κ :=
  { p with arguments := argument :: p.arguments }

/-- Reads a command line.  Options may stand among the other arguments if `mixed` is set;
otherwise they end at the first of these. -/
def parse (known : List (Known κ)) (mixed : Bool) :
    List String → Except UsageProblem (Parsed κ)
  | [] => .ok ⟨[], []⟩
  | argument :: rest =>
    if argument = "--" then .ok ⟨[], rest⟩
    else if isOption argument then
      match readOption known argument with
      | .error problem => .error problem
      | .ok ⟨options, none⟩ => (parse known mixed rest).map (·.addOptions options)
      | .ok ⟨options, some pending⟩ =>
        match rest with
        | [] => .error (.needsValue pending.name)
        | value :: rest' =>
          (parse known mixed rest').map (·.addOptions (options ++ [⟨pending.key, value⟩]))
    else if mixed then (parse known mixed rest).map (·.addArgument argument)
    else .ok ⟨[], argument :: rest⟩

variable [DecidableEq κ]

/-- Whether an option is given. -/
def Parsed.has (p : Parsed κ) (key : κ) : Bool := p.options.any fun o => o.key = key

/-- The values of an option, in order. -/
def Parsed.values (p : Parsed κ) (key : κ) : List String :=
  (p.options.filter fun o => o.key = key).map (·.value)

/-- The value of an option; the last one counts. -/
def Parsed.value? (p : Parsed κ) (key : κ) : Option String := (p.values key).getLast?

end Options

end Replica
