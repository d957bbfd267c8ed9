import Replica.World
/-!
# The display of the current activity

While a run goes on, a display says what it is busy with.  The display belongs to the terminal:
what it writes when it appears and when it disappears, and which descriptions it can draw, is its
own affair, and a display that is not to be shown may write something nevertheless.

* `Display.draw`: drawing a description, which may fail.
* `Display.blank`: the display that draws everything and writes nothing.
-/

namespace Replica

/-- A display of the current activity. -/
structure Display where
  /-- What is written when the display appears, be it shown or not. -/
  opening : Bool → String
  /-- What is written when it disappears, be it shown or not, with a description. -/
  closing : Bool → String → String
  /-- Why a description cannot be drawn. -/
  fault? : String → Option String

namespace Display

variable {σ : Type}

/-- The display that draws everything and writes nothing. -/
def blank : Display := ⟨fun _ => "", fun _ _ => "", fun _ => none⟩

/-- Why a description is not drawn; a display that is not shown draws none. -/
def undrawn? (d : Display) (shown : Bool) (description : String) : Option String :=
  if shown then d.fault? description else none

/-- Draws a description. -/
def draw (d : Display) (shown : Bool) (description : String) : Action σ Unit :=
  match d.undrawn? shown description with
  | some cause => Procedure.fail (.undrawable cause)
  | none => return ()

/-- Writes what the display wants written. -/
def write (text : String) : Action σ Unit :=
  if text.isEmpty then return () else Action.record (.wrote .out text)

end Display

end Replica
