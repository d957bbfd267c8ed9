import Replica.CommandLine.Shell
import Replica.Run
/-!
# The command that copies the device

It performs a run over the chosen storages and shows the statistics.  Whatever stops the run is
shown as an error.
-/

namespace Replica.Shell

variable {τ : Type}

/-- What the command is told. -/
structure Copying where
  /-- The local directory to copy into. -/
  destination : Path
  /-- The storages, all of them if none are named. -/
  storages : List Int
  /-- Whether abstract files are fetched too. -/
  includeAbstract : Bool
deriving DecidableEq, Repr

/-- The run that the command performs. -/
def runPlan (shell : Shell τ) (console : Console) (c : Client) (what : Copying) :
    Run.Plan (Session τ) where
  remote := shell.remote c
  console := console
  display := shell.display
  destination := what.destination
  storages := if what.storages.isEmpty then none else some what.storages
  includeAbstract := what.includeAbstract
  maxFailures := Budget.defaultThreshold
  depth := shell.limit

/-- Whether a failure of the run is shown to the user as an error. -/
def isReported : Failure → Bool
  | .abort _ => true
  | other => other.isWrongValue

/-- The command. -/
def copy (shell : Shell τ) (g : General) (what : Copying) : Action (Session τ) ExitCode :=
  shell.connecting g fun c => do
    match ← withClient (Run.start (shell.runPlan g.console c what)) with
    | .ok statistics =>
      if g.console.json then g.console.document statistics.toJson
      return .success
    | .error .interrupted =>
      g.console.warning "Mirror cancelled by user"
      return .cancelled
    | .error failure =>
      Procedure.require (isReported failure) failure
      g.console.error failure.message
      return .failure

end Replica.Shell
