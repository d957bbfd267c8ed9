import Replica.Display
import Replica.Walk
/-!
# Runs

A run copies the storages of a device into one local directory, one storage after the other.
Every storage is walked from the destination on; the failures of all walks are counted together.

* `Run.Plan`: what a run is to do.
* `Run.start`: a whole run.
-/

namespace Replica.Run

/-- What a run is to do. -/
structure Plan (σ : Type) where
  /-- The remote tree. -/
  remote : Remote σ
  /-- Where the user reads what happens. -/
  console : Console
  /-- Where the current activity is shown. -/
  display : Display
  /-- The local directory to copy into. -/
  destination : Path
  /-- The storages to copy, all of them if none are named. -/
  storages : Option (List Int)
  /-- Whether abstract files are fetched too. -/
  includeAbstract : Bool
  /-- How many transfers may fail. -/
  maxFailures : Int
  /-- The number of levels that a walk goes down. -/
  depth : Nat

variable {σ : Type}

/-- What each walk of a run is to do. -/
def Plan.walk (p : Plan σ) : Walk.Plan σ where
  remote := p.remote
  console := some p.console
  includeAbstract := p.includeAbstract
  depth := p.depth

/-- Whether the display of the current activity is shown. -/
def Plan.showsActivity (p : Plan σ) : Bool := !(p.console.quiet || p.console.json)

/-- Checks that the destination is a directory. -/
def checkDestination (p : Plan σ) : Action σ Unit := do
  let path := p.destination
  let isThere ← Procedure.ofRequest path ((← Action.files).contains path)
  Procedure.require isThere (.noDestination path.text)
  let isDirectory ← Procedure.ofRequest path ((← Action.files).isDirectory path)
  Procedure.require isDirectory (.destinationNotDirectory path.text)

/-- The text of a storage's number, unless it has too many digits to be written. -/
def storageText (id : Int) : Except ValueFault String :=
  if Numeral.maxDecimalDigits < (natDigits id.natAbs).length then .error .integerTooLong
  else .ok (toString id)

/-- The storages that are wanted, and the wanted numbers that no storage has, in order. -/
def choose (storages : List Storage) (wanted : List Int) : List Storage × List Int :=
  (storages.filter fun s => wanted.contains s.id,
    ((wanted.filter fun id => !storages.any fun s => s.id = id).eraseDups).mergeSort)

/-- Asks for the storages and leaves out those that are not wanted. -/
def chooseStorages (p : Plan σ) : Action σ (List Storage) := do
  let storages ← Action.serve p.remote.listStorages
  (← p.remote.takeErrors).forM fun error => do
    Action.log .warning .run error
    p.console.warning error
  match p.storages with
  | none => return storages
  | some wanted =>
    let (selected, absent) := choose storages wanted
    absent.forM fun id => do
      let text ← Procedure.ofChecked (storageText id)
      p.console.warning ("Storage " ++ text ++ " not found on device")
    return selected

/-- Logs what stopped the walk through a storage. -/
def reportAbort (storage : Storage) (walk : Walk) : Failure → Action σ Unit
  | .abort condition =>
    Action.log .error .run
      ("Aborting mirror in storage " ++ toString storage.id ++ " at '" ++ walk.trail.path
        ++ "': " ++ condition.message)
  | _ => return ()

/-- The line that introduces a storage. -/
def Plan.introduction (p : Plan σ) (storage : Storage) : Json :=
  .joined [.string ("Mirroring storage " ++ toString storage.id ++ " ("),
    storage.description.orElse (.string "no description"),
    .string (") into " ++ p.destination.text)]

/-- Walks through one storage and gives the failures of the run so far and what was counted. -/
def walkStorage (p : Plan σ) (budget : Budget) (storage : Storage) : Action σ Walk := do
  p.console.infoValue (p.introduction storage)
  let (result, walk) ← p.walk.perform (Walk.new p.destination budget) storage.id none
  match result with
  | .ok () => return walk
  | .error failure =>
    reportAbort storage walk failure
    Procedure.fail failure

/-- Walks through storages one after the other. -/
def walkAll (p : Plan σ) : Budget → RunStatistics → List Storage → Action σ RunStatistics
  | _, statistics, [] => return statistics
  | budget, statistics, storage :: rest => do
    let walk ← walkStorage p budget storage
    walkAll p walk.budget ⟨statistics.total + walk.statistics, statistics.storages + 1⟩ rest

/-- The text of a count, unless that is zero. -/
def counted (n : Nat) : Option String := if n = 0 then none else some (toString n)

/-- Tells the user what became of the entries. -/
def summarize (c : Console) (s : RunStatistics) : Action σ Unit := do
  if c.quiet || c.json then return ()
  else
    let t := s.total
    c.print ""
    c.success ("Mirrored " ++ toString s.storages ++ " storage(s): " ++ toString t.directories
      ++ " directories, " ++ toString t.files ++ " files")
    c.info ("  Fetched: " ++ toString t.downloads)
    c.info ("  Up to date: " ++ toString t.skips)
    (counted t.abstracts).forM fun n => c.info ("  Abstract (not fetched): " ++ n)
    (counted t.invalid).forM fun n => c.info ("  Skipped (unusable name): " ++ n)
    (counted t.failures).forM fun n => c.warning (n ++ " file(s) failed to transfer")

/-- The description of the activity before a file is looked at. -/
def firstDescription : String := "Mirroring..."

/-- The description of the activity after files were looked at, `before` of them before the
activity began. -/
def lastDescription (before : Nat) : List String → String
  | [] => firstDescription
  | path :: earlier => if before ≤ earlier.length then Event.checking path else firstDescription

/-- Draws what the display shows at first and goes on with what it is about. -/
def showing {α : Type} (p : Plan σ) (work : Action σ α) : Action σ α := do
  p.display.draw p.showsActivity firstDescription
  work

/-- Takes the display away, with its last description. -/
def hide (p : Plan σ) (before : Nat) : Action σ Unit := do
  Action.record (.activity .stopped)
  let description := lastDescription before (← Procedure.state).visits
  p.display.draw p.showsActivity description
  Display.write (p.display.closing p.showsActivity description)

/-- Copies the storages of a device into the destination. -/
def start (p : Plan σ) : Action σ RunStatistics := do
  checkDestination p
  let storages ← chooseStorages p
  Action.record (.activity (.started p.showsActivity))
  Display.write (p.display.opening p.showsActivity)
  Action.record (.activity (.described firstDescription))
  let before := (← Procedure.state).visits.length
  let statistics ← Procedure.ending
    (showing p (walkAll p (.ofThreshold p.maxFailures) {} storages)) (hide p before)
  summarize p.console statistics
  return statistics

end Replica.Run
