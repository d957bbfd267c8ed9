import Replica.CommandLine.Shell
/-!
# The command that writes the settings

It asks for the address of the bridge and the key, unless they are given, tries them, and saves
them.  If the bridge has no answer the user decides whether they are saved all the same.
-/

namespace Replica.Shell

variable {τ : Type}

/-- What the command is told. -/
structure Access where
  /-- The address of the bridge. -/
  url : Option String
  /-- The key. -/
  key : Option String
deriving DecidableEq, Repr

/-- The address and the key, and the typed lines that are left. -/
structure Agreed where
  /-- The address. -/
  url : String
  /-- The key, empty if there is none. -/
  key : String
  /-- The lines that are left. -/
  rest : List String

/-- A text that is given, or asked for; the question and the text for an empty answer are found
only if they are needed. -/
def givenOrAsked (given : Option String) (question : String → String)
    (default : Action (Session τ) String) (typed : List String) :
    Action (Session τ) (Option (Prompt.Answered String)) := do
  match given with
  | some text => return some ⟨text, typed⟩
  | none =>
    let default ← default
    Prompt.ask (question default) default typed

/-- Settles the address and the key. -/
def agree (shell : Shell τ) (access : Access) : Action (Session τ) (Option Agreed) := do
  let urlQuestion (default : String) : String := "Device bridge API URL [" ++ default ++ "]"
  let keyQuestion (_ : String) : String := "API key (leave empty if the bridge needs none)"
  match ← givenOrAsked access.url urlQuestion shell.settings.url shell.typed with
  | none => return none
  | some url =>
    match ← givenOrAsked access.key keyQuestion (pure "") url.rest with
    | none => return none
    | some key => return some ⟨url.answer, key.answer, key.rest⟩

/-- Asks the bridge who the device is. -/
def tryDevice (shell : Shell τ) (c : Client) : Action (Session τ) Device := do
  let answer ← Session.onConnection (c.device shell.link)
  Procedure.ofChecked (Device.ofJson answer)

/-- Saves what was agreed. -/
def saveAccess (shell : Shell τ) (console : Console) (agreed : Agreed) :
    Action (Session τ) ExitCode := do
  shell.settings.save agreed.url (Settings.given (some agreed.key))
  console.success "Configuration saved successfully"
  console.info ("Config file: " ++ shell.settings.file.text)
  return .success

/-- Tries what was agreed and saves it. -/
def check (shell : Shell τ) (console : Console) (agreed : Agreed) :
    Action (Session τ) ExitCode := do
  console.info "Checking device bridge..."
  let c ← shell.settings.client (some agreed.url) (some agreed.key)
  match ← withClient (shell.tryDevice c) with
  | .ok device =>
    console.successValue (.joined [.string "Connected to device: ", device.shownName])
    shell.saveAccess console agreed
  | .error (.bridge error) =>
    console.error ("Device bridge check failed: " ++ error.message)
    match ← Prompt.confirm "Save configuration anyway?" agreed.rest with
    | none => giveUp
    | some ⟨true, _⟩ => shell.saveAccess console agreed
    | some ⟨false, _⟩ => return .failure
  | .error failure => Procedure.fail failure

end Replica.Shell
