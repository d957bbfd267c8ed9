import Replica.CommandLine.Shell
import Replica.Remote.Traversal
/-!
# The command that lists the files

It goes through the chosen storages and shows every file and abstract file that it finds.
Listings that fail are warned about at the end.
-/

namespace Replica.Shell

variable {τ : Type}

/-- The words for the size of a file in the listing. -/
def sizeLine : Option Int → String
  | none => "   None. (abstract file, size unknown)"
  | some n => "   File size " ++ toString n ++ " (0x" ++ Numeral.hexPadded 16 n ++ ") bytes"

/-- The line with the path of a file that was found. -/
def pathLine (f : Finding) : Json := .joined [.string "   Filename: ", f.path]

/-- The line with the filetype of a file that was found. -/
def filetypeLine (f : Finding) : Json :=
  .joined [.string "   Filetype: ", f.node.filetype.orElse (.string "unknown")]

/-- Prints a file that was found. -/
def printFinding (console : Console) (f : Finding) : Action (Session τ) Unit := do
  let n := f.node
  console.print ("File ID: " ++ toString n.id)
  console.printValue (pathLine f)
  console.print (sizeLine n.declaredSize)
  console.print ("   Parent ID: " ++ Node.idText n.parent)
  console.print ("   Storage ID: 0x" ++ Numeral.hexPadded 8 n.storage)
  console.printValue (filetypeLine f)

/-- A file that was found as a JSON value. -/
def findingJson (f : Finding) : Json := .object (f.node.toFields ++ [("path", f.path)])

/-- Goes through one storage and gives the files in it. -/
def listStorage (shell : Shell τ) (console : Console) (r : Remote (Session τ))
    (storage : Storage) : Action (Session τ) (List Finding) := do
  let (result, found) ← Traversal.perform r shell.limit { storage := storage.id }
  let files := found.filter fun f => !f.node.isContainer
  (if console.json then [] else files).forM (printFinding console)
  Procedure.ofExcept result
  return files

/-- Goes through the storages that are wanted, or all if none are named. -/
def listFiles (shell : Shell τ) (console : Console) (r : Remote (Session τ))
    (wanted : List Int) : Action (Session τ) (List Finding) := do
  let storages ← Action.serve r.listStorages
  let chosen :=
    if wanted.isEmpty then storages else storages.filter fun s => wanted.contains s.id
  return (← chosen.mapM (shell.listStorage console r)).flatten

/-- The command. -/
def files (shell : Shell τ) (g : General) (wanted : List Int) : Action (Session τ) ExitCode :=
  shell.connecting g fun c => do
    let r := shell.remote c
    match ← withClient (shell.listFiles g.console r wanted) with
    | .ok found =>
      showErrors g.console r
      if g.console.json then g.console.document (.array (found.map findingJson))
      return .success
    | .error .interrupted =>
      g.console.warning "Listing cancelled by user"
      return .cancelled
    | .error failure => Procedure.fail failure

end Replica.Shell
