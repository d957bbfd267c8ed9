import Replica.Budget
import Replica.Comparison
import Replica.Console
import Replica.Remote.Basic
import Replica.Size
import Replica.Statistics
/-!
# Walks

A walk goes through one storage, depth first, in the order in which the device gives the
entries.  For a folder it makes the local directory of that name, enters it, and goes on with
the folder's children; for a file it looks at the local entry of that name and asks for the
content if it has to.  The trail and the local directory move together, which is checked after
every move.

* `Walk`: where a walk stands and what it has counted.
* `Walk.visit`: one container with everything below it.
* `Walk.start`: a whole walk.
-/

namespace Replica

/-- Where a walk stands and what it has counted. -/
structure Walk where
  /-- The names of the folders on the way down. -/
  trail : Trail
  /-- The local directory. -/
  place : LocalDirectory
  /-- The numbers of the containers on the way down. -/
  ancestors : List Int
  /-- What became of the entries so far. -/
  statistics : Statistics
  /-- The failures of the whole run. -/
  budget : Budget
deriving DecidableEq, Repr

namespace Walk

/-- A walk before its first step. -/
def new (root : Path) (budget : Budget) : Walk := ⟨.empty, .atRoot root, [], {}, budget⟩

/-- Where the walk stands. -/
def standing (w : Walk) : Standing := ⟨w.trail.segments, w.place.parts, w.ancestors⟩

/-- What a walk is to do. -/
structure Plan (σ : Type) where
  /-- The remote tree. -/
  remote : Remote σ
  /-- Where the user reads what happens, if at all. -/
  console : Option Console
  /-- Whether abstract files are fetched too. -/
  includeAbstract : Bool
  /-- The number of levels that the walk goes down. -/
  depth : Nat

/-- A walk in a world. -/
structure Scene (σ : Type) where
  /-- The walk. -/
  walk : Walk
  /-- The world. -/
  world : World σ

/-- A part of a walk; a failure leaves the walk where it stands. -/
abbrev Part (σ α : Type) := Procedure (Scene σ) α

variable {σ α : Type}

/-- Does something to the world. -/
def lift (action : Action σ α) : Part σ α :=
  Procedure.within Scene.world (fun world s => { s with world }) action

/-- The walk as it is. -/
def here : Part σ Walk := return (← Procedure.state).walk

/-- Changes the walk. -/
def change (f : Walk → Walk) : Part σ Unit :=
  Procedure.change fun s => { s with walk := f s.walk }

/-- Stops the run because the trail was misused. -/
def stop (fault : TrailFault) : Part σ α := Procedure.fail (.abort (.trail fault))

/-- Records a step. -/
def step (what : Step) : Part σ Unit := do
  lift (Action.record (.step (← here).standing what))

/-- Counts something. -/
def count (f : Statistics → Statistics) : Part σ Unit :=
  change fun w => { w with statistics := f w.statistics }

/-! ## Reports -/

/-- Logs a warning and shows it to the user. -/
def warn (p : Plan σ) (text : String) : Part σ Unit := do
  lift (Action.log .warning .walk text)
  p.console.forM fun console => lift (console.warning text)

/-- Shows the messages of the remote tree, each as one warning. -/
def reportErrors (p : Plan σ) (context : String) : Part σ Unit := do
  let errors ← lift p.remote.takeErrors
  errors.forM fun error => warn p ("Remote error while " ++ context ++ ": " ++ error)

/-! ## Moves -/

/-- Checks that the trail and the local directory name the same place. -/
def checkAgreement : Part σ Unit := do
  let w ← here
  if w.trail.path = w.place.relative then return ()
  else stop (.diverged w.trail.path w.place.relative)

/-- A name that is given as a text without surrogates. -/
def nameText (name : Json) : Part σ String := do
  let place := (← here).place
  match name with
  | .string s => return s
  | other => Procedure.fail (.value (place.nameFault other))

/-- Adds a name to the trail. -/
def push (name : String) : Part σ Unit := do
  match (← here).trail.push name with
  | .ok trail => change fun w => { w with trail }
  | .error fault => stop fault

/-- Takes the last name off the trail. -/
def pop : Part σ Unit := do
  match (← here).trail.pop with
  | .ok (_, trail) => change fun w => { w with trail }
  | .error fault => stop fault

/-- Makes and enters the local directory of a folder. -/
def goDown (name : String) : Part σ Unit := do
  lift ((← here).place.create name)
  let place ← lift ((← here).place.enter name)
  change fun w => { w with place }
  push name
  checkAgreement

/-- Leaves the current directory. -/
def goUp : Part σ Unit := do
  pop
  let place ← lift (← here).place.leave
  change fun w => { w with place }
  checkAgreement

/-! ## Folders and files -/

/-- Goes through a folder; `below` goes through what it holds. -/
def goThrough (below : Int → Part σ Unit) (folder : Node) : Part σ Unit := do
  let w ← here
  Procedure.require (!w.ancestors.contains folder.id) (.abort (.cycle folder.id w.trail.path))
  let label := w.trail.path ++ folder.name.display
  lift (Action.log .info .walk ("ENTER DIRECTORY: " ++ label))
  let name ← nameText folder.name
  goDown name
  step (.entered folder.id name)
  count fun c => { c with directories := c.directories + 1 }
  below folder.id
  goUp
  step (.left folder.id name)
  lift (Action.log .info .walk ("LEAVE DIRECTORY: " ++ (← here).trail.path ++ name))

/-- The words for the declared size of a file. -/
def sizeText : Option Int → Except ValueFault String
  | none => .ok "abstract file"
  | some n => Size.ofInt n

/-- Reports and counts a file that could not be fetched, and stops the run if there are too many
of them. -/
def failTransfer (p : Plan σ) (name : String) : Part σ Unit := do
  let errors ← lift p.remote.takeErrors
  let cause := if errors.isEmpty then "unknown error" else "; ".intercalate errors
  let message := "couldn't write " ++ name ++ " in dir " ++ (← here).place.current.text ++ ": "
    ++ cause
  lift (Action.log .error .walk message)
  p.console.forM fun console => lift (console.error message)
  count fun c => { c with failures := c.failures + 1 }
  let budget ← lift (← here).budget.spend
  change fun w => { w with budget }
  lift budget.check

/-- Asks for the content of a file. -/
def transfer (p : Plan σ) (file : Node) (name path size : String) : Part σ Unit := do
  let target := (← here).place.pathFor name
  step (.fetching file target)
  let success ← lift (Action.serve (p.remote.fetch file target))
  step (.fetched success)
  if success then
    count fun c => { c with downloads := c.downloads + 1 }
    p.console.forM fun console =>
      lift (console.info ("Fetched: " ++ path ++ " (" ++ size ++ ")"))
  else failTransfer p name

/-- Looks at a file and asks for its content if it has to. -/
def bringUpToDate (p : Plan σ) (file : Node) : Part σ Unit := do
  let path := (← here).trail.path ++ file.name.display
  count fun c => { c with files := c.files + 1 }
  step (.visited path)
  let size ← lift (Procedure.ofChecked (sizeText file.declaredSize))
  lift (Action.log .debug .walk
    ("File " ++ path ++ ": id=" ++ toString file.id ++ " parent=" ++ Node.idText file.parent
      ++ " size=" ++ size ++ " type=" ++ file.filetype.display))
  let name ← nameText file.name
  step (.compared file)
  let outcome ← lift (Comparison.inspect (← here).place name (.ofInt? file.declaredSize))
  if !outcome.mustCopy then count fun c => { c with skips := c.skips + 1 }
  else if file.isAbstract && !p.includeAbstract then
    count fun c => { c with abstracts := c.abstracts + 1 }
    lift (Action.log .info .walk ("Not fetching abstract file " ++ path))
  else transfer p file name path size

/-! ## Containers -/

/-- Gives one child its turn. -/
def takeUp (p : Plan σ) (below : Int → Part σ Unit) (child : Node) : Part σ Unit := do
  step (.taken child)
  if !(← lift (Procedure.ofChecked (isUsableName child.name))) then
    count fun c => { c with invalid := c.invalid + 1 }
    warn p ("Skipping entry " ++ toString child.id ++ " with unusable name "
      ++ child.name.quotedText ++ " in '" ++ (← here).trail.path ++ "'")
  else if child.isContainer then goThrough below child
  else bringUpToDate p child

/-- Marks a container as one that the walk is inside of. -/
def goInside (id : Int) : Part σ Unit :=
  change fun w => { w with ancestors := w.ancestors.insert id }

/-- Takes the mark off. -/
def comeOut (id : Int) : Part σ Unit :=
  change fun w => { w with ancestors := w.ancestors.filter (· ≠ id) }

/-- Goes through everything below a container; `depth` is the number of levels left. -/
def visit (p : Plan σ) (storage : Int) :
    (depth : Nat) → (container : Option Int) → Part σ Unit
  | 0, _ => Procedure.fail .tooDeep
  | depth + 1, container => do
    container.forM goInside
    step (.listing storage container)
    let children ← lift (Action.serve (p.remote.listChildren storage container))
    step (.listed children)
    reportErrors p
      ("listing " ++ Node.idText container ++ " in '" ++ (← here).trail.path ++ "'")
    children.forM (takeUp p fun id => visit p storage depth (some id))
    container.forM comeOut

/-- Checks that the trail is empty. -/
def expectTop (fault : String → TrailFault) : Part σ Unit := do
  let trail := (← here).trail
  if trail.depth = 0 then return () else stop (fault trail.path)

/-- Goes through a whole storage, or through one container of it. -/
def start (p : Plan σ) (storage : Int) (container : Option Int) : Part σ Unit := do
  expectTop .startedInside
  change fun w => { w with ancestors := [] }
  visit p storage p.depth container
  checkAgreement
  expectTop .endedInside

/-- Goes through a whole storage, or through one container of it, from where a walk stands, and
tells how it ended and where the walk stands then. -/
def Plan.perform (p : Plan σ) (walk : Walk) (storage : Int) (container : Option Int) :
    Action σ (Except Failure Unit × Walk) := fun w =>
  let (result, scene) := (start p storage container).run ⟨walk, w⟩
  (.ok (result, scene.walk), scene.world)

end Walk

end Replica
