import Replica.Failure
/-!
# Names that can be used

Names come from the device and are not to be trusted.  A name is used only if it is a single
component of a path: not empty, not a dot or two, without separator and without null character.

* `isSegment`: whether a text is such a name.
* `isUsableName`: the same for a name of any kind.
-/

namespace Replica

/-- Whether a name is a single component of a path. -/
def isSegment (name : String) : Bool :=
  name ≠ "" && name ≠ "." && name ≠ ".." &&
    !name.toList.contains separator && !name.toList.contains '\x00'

/-- The same for a name with surrogates. -/
def isUnwritableSegment (name : Text.Unwritable) : Bool :=
  !name.points.contains separator.toNat && !name.points.contains 0

/-- The texts that may not occur in a name. -/
def forbiddenParts : List String := ["/", "\x00"]

/-- Whether a name of any kind passes the test.  Of a list the items and of an object the names
are looked at; other values that count as given cannot be searched at all. -/
def isUsableName : Json → Except ValueFault Bool
  | .string s => .ok (isSegment s)
  | .unwritable t => .ok (isUnwritableSegment t)
  | .array vs =>
    .ok (!vs.isEmpty && !vs.any fun v =>
      match v with
      | .string s => forbiddenParts.contains s
      | _ => false)
  | .object fs => .ok (!fs.isEmpty && !fs.any fun f => forbiddenParts.contains f.1)
  | other => if other.truthy then .error (.notSearchable other.kindName) else .ok false

end Replica
