import Replica.Journal
import Replica.Procedure
/-!
# Worlds and actions

What an operation sees and changes is a world: the local file system, the state of the other
side, and what happened so far.  An action is a procedure on a world.

* `World.journal`: what happened, in order.
* `Action.record`: puts an event into the journal.
-/

namespace Replica

/-- What an operation sees and changes; `σ` is the state of the other side. -/
structure World (σ : Type) where
  /-- The local file system. -/
  files : FileSystem
  /-- The state of the other side. -/
  other : σ
  /-- What happened so far, the newest first. -/
  events : List Event

namespace World

variable {σ τ : Type}

/-- The world as the other side of another state sees it. -/
def withOther (w : World σ) (other : τ) : World τ := ⟨w.files, other, w.events⟩

/-- The world with one more event. -/
def add (w : World σ) (e : Event) : World σ := { w with events := e :: w.events }

/-- What happened so far, the oldest first. -/
def journal (w : World σ) : List Event := w.events.reverse

/-- The paths of the files that were looked at, the newest first. -/
def visits (w : World σ) : List String := w.events.filterMap Event.visited?

/-- The world with more events, the oldest of them first. -/
def addAll (w : World σ) (es : List Event) : World σ :=
  { w with events := es.reverse ++ w.events }

@[simp] theorem journal_add (w : World σ) (e : Event) :
    (w.add e).journal = w.journal ++ [e] := List.reverse_cons

@[simp] theorem journal_addAll (w : World σ) (es : List Event) :
    (w.addAll es).journal = w.journal ++ es := by
  rw [journal, addAll, List.reverse_append, List.reverse_reverse, journal]

end World

/-- A procedure on a world. -/
abbrev Action (σ α : Type) := Procedure (World σ) α

namespace Action

variable {σ τ α : Type}

/-- Records an event. -/
def record (e : Event) : Action σ Unit := Procedure.change fun w => w.add e

/-- Records events, the oldest first. -/
def recordAll (es : List Event) : Action σ Unit := Procedure.change fun w => w.addAll es

/-- Logs a record. -/
def log (level : Level) (origin : Origin) (text : String) : Action σ Unit :=
  record (.logged ⟨level, origin, text⟩)

/-- The local file system. -/
def files : Action σ FileSystem := return (← Procedure.state).files

/-- Puts a changed file system in place. -/
def setFiles (files : FileSystem) : Action σ Unit := Procedure.change fun w => { w with files }

/-- The state of the other side. -/
def other : Action σ σ := return (← Procedure.state).other

/-- Changes the state of the other side. -/
def changeOther (f : σ → σ) : Action σ Unit :=
  Procedure.change fun w => { w with other := f w.other }

/-- An action on a part of the state of the other side. -/
def zoom (part : σ → τ) (put : τ → σ → σ) (action : Action τ α) : Action σ α :=
  Procedure.within (fun w => w.withOther (part w.other))
    (fun w' w => w'.withOther (put w'.other w.other)) action

end Action

end Replica
