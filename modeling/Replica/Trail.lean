import Replica.Segment
/-!
# The trail of a walk

A trail records the names of the directories that a walk has entered, from the destination to
the current one.  A name is pushed after its directory was entered and popped before it is
left, so the path of the trail names the current directory without asking the file system.
-/

namespace Replica

/-- The names of the directories entered, the outermost first. -/
structure Trail where
  /-- The names. -/
  segments : List String
deriving DecidableEq, Repr

namespace Trail

/-- The trail at the destination. -/
def empty : Trail := ⟨[]⟩

/-- The text of a directory below the destination: each name with a separator after it. -/
def pathOf (segments : List String) : String :=
  String.join (segments.map fun s => s ++ "/")

/-- The path of the current directory; it is empty at the destination. -/
def path (t : Trail) : String := pathOf t.segments

/-- The number of names. -/
def depth (t : Trail) : Nat := t.segments.length

/-- Adds a name at the end; it has to be a single component of a path. -/
def push (t : Trail) (name : String) : Except TrailFault Trail :=
  if isSegment name then .ok ⟨t.segments ++ [name]⟩ else .error (.invalidName name)

/-- Takes the last name off. -/
def pop (t : Trail) : Except TrailFault (String × Trail) :=
  match t.segments.getLast? with
  | some name => .ok (name, ⟨t.segments.dropLast⟩)
  | none => .error .emptyPop

/-- The written form of a trail. -/
def text (t : Trail) : String := trailText t.path

end Trail

end Replica
