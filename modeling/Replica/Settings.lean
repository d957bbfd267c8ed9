import Replica.Bridge.Client
import Replica.Text.Lines
/-!
# Settings

Where the bridge is and which key it wants are taken from the environment, else from a file,
else a default address and no key.  The file has a name, an equals sign and a value on each
line; blank lines, lines that start with a number sign and lines without an equals sign are
left out, and of two lines with one name the later counts.

* `Settings.values`: what the file says.
* `Settings.url`, `Settings.key`: the address and the key.
* `Settings.save`: writes the file anew.
* `Settings.client`: a client for what the settings and the caller say.
-/

namespace Replica

/-- What the environment says; an empty text says nothing. -/
structure Environment where
  /-- The address of the bridge. -/
  url : Option String := none
  /-- The key. -/
  key : Option String := none
deriving DecidableEq, Repr

/-- Where settings come from. -/
structure Settings where
  /-- The file. -/
  file : Path
  /-- The environment. -/
  environment : Environment := {}
deriving DecidableEq, Repr

namespace Settings

/-- The name of the address. -/
def urlName : String := "TREEMIRROR_API_URL"

/-- The name of the key. -/
def keyName : String := "TREEMIRROR_API_KEY"

/-- The address unless another one is given. -/
def defaultUrl : String := "http:" ++ "//localhost:8765/api/v1"

/-- The directory that belongs to the user. -/
def home : Path := .ofString "home"

/-- The file unless another one is given. -/
def defaultFile : Path := home.join ".config/treemirror/config"

/-! ## The file -/

/-- Splits a line at its first equals sign, if it has one. -/
def splitEquals : List Char → Option (List Char × List Char)
  | [] => none
  | c :: rest =>
    if c = '=' then some ([], rest)
    else (splitEquals rest).map fun (name, value) => (c :: name, value)

/-- The name and the value on a line, if it has them. -/
def entryOf (line : List Char) : Option (String × String) :=
  let line := Text.stripChars line
  if line.head? = some '#' then none
  else
    (splitEquals line).map fun (name, value) =>
      (String.ofList (Text.stripChars name), String.ofList (Text.stripChars value))

/-- What the text of a file says, the later of two lines with one name counting. -/
def valuesOf (text : String) : List (String × String) :=
  (Text.lines text.toList).filterMap entryOf

/-- The value of a name. -/
def valueOf (name : String) (values : List (String × String)) : Option String :=
  (values.reverse.find? fun entry => entry.1 = name).map (·.2)

/-- The text of a file that says this. -/
def textFor (url : String) (key : Option String) : String :=
  urlName ++ "=" ++ url ++ "\n"
    ++ match key with
      | some k => if k = "" then "" else keyName ++ "=" ++ k ++ "\n"
      | none => ""

variable {σ : Type}

/-- Whether there is a file. -/
def isWritten (s : Settings) : Action σ Bool := do
  Procedure.ofRequest s.file ((← Action.files).contains s.file)

/-- What the file says. -/
def values (s : Settings) : Action σ (List (String × String)) := do
  if ← s.isWritten then
    let bytes ← Procedure.ofRequest s.file ((← Action.files).readFile s.file)
    match String.fromUTF8? (ByteArray.mk bytes.toArray) with
    | some text => return valuesOf text
    | none => Procedure.fail .undecodable
  else return []

/-- The permission bits of a file for its owner alone. -/
def privateMode : Nat := 0o600

/-- Writes the file anew; nobody but its owner may read it. -/
def save (s : Settings) (url : String) (key : Option String) : Action σ Unit := do
  let (made, files) := (← Action.files).ensureDirectory s.file.parent
  Action.setFiles files
  match made with
  | .error refusal => Procedure.fail (.ofPathFault refusal.path refusal.fault)
  | .ok () =>
    let content := (textFor url key).toUTF8.toList
    Action.setFiles (← Procedure.ofRequest s.file (files.writeFile s.file content))
    Action.setFiles
      (← Procedure.ofRequest s.file ((← Action.files).setMode s.file privateMode))

/-! ## What is set -/

/-- A text that says something. -/
def given (text : Option String) : Option String := text.filter (· ≠ "")

/-- The address of the bridge. -/
def url (s : Settings) : Action σ String := do
  match given s.environment.url with
  | some url => return url
  | none => return (given (valueOf urlName (← s.values))).getD defaultUrl

/-- The key, if there is one. -/
def key (s : Settings) : Action σ (Option String) := do
  match given s.environment.key with
  | some key => return some key
  | none => return valueOf keyName (← s.values)

/-- The address that the caller gives, else the one that is set, without separators at its
end. -/
def urlOr (s : Settings) (url : Option String) : Action σ String := do
  match given url with
  | some url => return Text.trimRight '/' url
  | none => return Text.trimRight '/' (← s.url)

/-- The key that the caller gives, else the one that is set. -/
def keyOr (s : Settings) (key : Option String) : Action σ (Option String) := do
  match given key with
  | some key => return some key
  | none => s.key

/-- A client for the bridge; what the caller gives counts before the settings. -/
def client (s : Settings) (url key : Option String) : Action σ Client := do
  let url ← s.urlOr url
  let key ← s.keyOr key
  Procedure.require (url ≠ "") (.bridge .unconfigured)
  return { url, key }

end Settings

end Replica
