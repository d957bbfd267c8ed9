import Replica.Trail
import Replica.World
/-!
# The local directory

A run works in one local directory at a time.  It starts at the destination and moves by
entering and leaving directories; every name is taken relative to the current one.  The
directory in which the program was started is never changed.

* `LocalDirectory.create`, `enter`, `leave`: the moves.
* `LocalDirectory.inspect`: the size of an entry.
-/

namespace Replica

/-- The destination and the directories entered below it. -/
structure LocalDirectory where
  /-- The destination. -/
  root : Path
  /-- The names of the directories entered, the outermost first. -/
  parts : List String
deriving DecidableEq, Repr

namespace LocalDirectory

/-- The local directory at the destination. -/
def atRoot (root : Path) : LocalDirectory := ⟨root, []⟩

/-- The path of the current directory. -/
def current (d : LocalDirectory) : Path := d.parts.foldl Path.join d.root

/-- The current directory relative to the destination. -/
def relative (d : LocalDirectory) : String := Trail.pathOf d.parts

/-- The path of a name in the current directory. -/
def pathFor (d : LocalDirectory) (name : String) : Path := d.current.join name

/-- What is wrong with a name that is no text without surrogates: it has no path in the current
directory, or the system cannot be asked about its path.  The names of entries are texts here, so
that holds of the surrogates too that some systems take for single bytes.  A path with a name of one
character at its end tells what comes before the name. -/
def nameFault (d : LocalDirectory) : Json → ValueFault
  | .unwritable t => .unwritable (t.behind (d.pathFor "-").text.toList.dropLast)
  | other => .notName other.kindName

/-- The fault of an operation on a name in the current directory. -/
def fault (d : LocalDirectory) (problem : DirectoryProblem) (name : String) : DirectoryFault :=
  ⟨problem, name, d.current.text, d.relative⟩

variable {σ : Type}

/-- Stops the run for a fault of a directory. -/
def stop {α : Type} (f : DirectoryFault) : Action σ α :=
  Procedure.fail (.abort (.directory f))

/-- Whether a path leads to a directory. -/
def leadsToDirectory (path : Path) : Action σ Bool := do
  Procedure.ofRequest path ((← Action.files).isDirectory path)

/-- Makes a directory in the current one unless there is one of that name. -/
def create (d : LocalDirectory) (name : String) : Action σ Unit := do
  let path := d.pathFor name
  match (← Action.files).makeDirectory path with
  | .ok files =>
    Action.setFiles files
    Action.log .debug .localDirectory ("Created directory " ++ path.text)
  | .error .nullCharacter => Procedure.fail .nullCharacter
  | .error (.system .occupied) =>
    if ← leadsToDirectory path then return () else stop (d.fault .blocked name)
  | .error (.system problem) => stop (d.fault (.notMade problem) name)

/-- Moves into a directory of the current one. -/
def enter (d : LocalDirectory) (name : String) : Action σ LocalDirectory := do
  if ← leadsToDirectory (d.pathFor name) then return { d with parts := d.parts ++ [name] }
  else stop (d.fault .notEntered name)

/-- Moves back to the directory above the current one. -/
def leave (d : LocalDirectory) : Action σ LocalDirectory :=
  match d.parts.getLast? with
  | none => stop ⟨.atTop, "", d.root.text, ""⟩
  | some name => do
    if ← leadsToDirectory d.current then return { d with parts := d.parts.dropLast }
    else stop (d.fault .vanished name)

/-- The size of an entry of the current directory, none if there is no such entry. -/
def inspect (d : LocalDirectory) (name : String) : Action σ (Option Nat) := do
  match (← Action.files).sizeOf (d.pathFor name) with
  | .ok size => return some size
  | .error (.system .missing) => return none
  | .error .nullCharacter => Procedure.fail .nullCharacter
  | .error (.system problem) =>
    Procedure.fail (.abort (.inspection (d.fault (.notInspected problem) name)))

end LocalDirectory

end Replica
