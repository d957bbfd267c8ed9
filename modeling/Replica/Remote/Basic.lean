import Replica.Device.Storage
import Replica.World
/-!
# Remote trees

What a run needs from the other side: the storages, the children of a container, and the
content of a file.  A remote tree keeps a state of its own, so that its answers may depend on
everything that it was asked before, and while it answers the local file system may change.
What goes wrong is put on a stack of messages, which the caller reads and clears.

* `Service`: one thing that the other side can be asked for.
* `Action.serve`: asks for it.
* `Remote`: a remote tree.
-/

namespace Replica

/-- One thing that the other side can be asked for: from its state and the local file system it
gives a result and the world that it leaves, with a journal of what happened meanwhile. -/
abbrev Service (σ α : Type) := σ → FileSystem → Except Failure α × World σ

/-- The events that a service adds to those of a world: steps are left out, as only a walk takes
them. -/
def reported (events : List Event) : List Event := events.filter fun e => !e.isStep

/-- Asks for a service. -/
def Action.serve {σ α : Type} (service : Service σ α) : Action σ α := fun w =>
  let outcome := service w.other w.files
  (outcome.1, { outcome.2 with events := reported outcome.2.events ++ w.events })

/-- The service that performs an action. -/
def Service.ofAction {σ α : Type} (action : Action σ α) : Service σ α := fun other files =>
  action.run ⟨files, other, []⟩

/-- A remote tree with state `σ`. -/
structure Remote (σ : Type) where
  /-- The storages of the device. -/
  listStorages : Service σ (List Storage)
  /-- The children of a container, or those at the top of a storage. -/
  listChildren : (storage : Int) → (container : Option Int) → Service σ (List Node)
  /-- Puts the content of a file at a path and says whether that succeeded. -/
  fetch : (file : Node) → (target : Path) → Service σ Bool
  /-- The messages about what went wrong, the oldest first. -/
  errors : σ → List String
  /-- Forgets these messages. -/
  forgetErrors : σ → σ

namespace Remote

variable {σ : Type}

/-- Takes the messages about what went wrong off their stack. -/
def takeErrors (r : Remote σ) : Action σ (List String) := do
  let errors := r.errors (← Action.other)
  Action.changeOther r.forgetErrors
  return errors

end Remote

end Replica
