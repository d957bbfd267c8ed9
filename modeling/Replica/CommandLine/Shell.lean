import Replica.CommandLine.Prompt
import Replica.Display
import Replica.Remote.Session
import Replica.Settings
/-!
# What commands share

Every command runs in a shell: it knows the way to the bridge, the settings, and what the user
types, and it has the general options.  A command ends with an exit code, or with a failure that
it does not handle.
-/

namespace Replica

/-- The surroundings of a command. -/
structure Shell (τ : Type) where
  /-- The way to the bridge. -/
  link : Link τ
  /-- The settings. -/
  settings : Settings
  /-- Where the current activity is shown. -/
  display : Display
  /-- The lines that the user types. -/
  typed : List String := []
  /-- How far listings and walks go. -/
  limit : Nat

/-- The general options. -/
structure General where
  /-- The address of the bridge. -/
  url : Option String
  /-- The key. -/
  key : Option String
  /-- Which messages the user wants to see. -/
  console : Console
  /-- Whether everything is logged. -/
  verbose : Bool
deriving DecidableEq, Repr

/-- The exit codes of commands. -/
inductive ExitCode where
  /-- The command has done its work. -/
  | success
  /-- It has not. -/
  | failure
  /-- The command line cannot be understood. -/
  | usage
  /-- The user interrupted the command. -/
  | cancelled
deriving DecidableEq, Repr

/-- The number of an exit code. -/
def ExitCode.number : ExitCode → Nat
  | success => 0
  | failure => 1
  | usage => 2
  | cancelled => 130

namespace Shell

variable {τ : Type}

/-- The remote tree of a client. -/
def remote (shell : Shell τ) (c : Client) : Remote (Session τ) :=
  Session.remote shell.link c { limit := shell.limit }

/-- Starts a session anew. -/
def renew : Action (Session τ) Unit :=
  Action.changeOther fun session => .start session.connection.link

/-- Closes the connection. -/
def hangUp : Action (Session τ) Unit := Session.onConnection Link.close

/-- Works with a client and closes its connection at the end. -/
def withClient {α : Type} (work : Action (Session τ) α) :
    Action (Session τ) (Except Failure α) := do
  renew
  Procedure.attempt (Procedure.ending work hangUp)

/-- Prepares a client and goes on with it; without the address of a bridge the command fails. -/
def connecting (shell : Shell τ) (g : General)
    (command : Client → Action (Session τ) ExitCode) : Action (Session τ) ExitCode := do
  match ← Procedure.attempt (shell.settings.client g.url g.key) with
  | .ok c => command c
  | .error (.bridge error) =>
    g.console.error error.message
    return .failure
  | .error failure => Procedure.fail failure

/-- Shows the messages of a remote tree as warnings. -/
def showErrors (console : Console) (r : Remote (Session τ)) : Action (Session τ) Unit := do
  (← r.takeErrors).forM console.warning

/-- Ends a command that cannot get an answer from the user. -/
def giveUp : Action (Session τ) ExitCode := do
  Console.writeLine .err "Aborted!"
  return .failure

end Shell

end Replica
